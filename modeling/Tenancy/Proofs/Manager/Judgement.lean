import Tenancy.Proofs.Manager.Discard
import Tenancy.Proofs.Manager.Sweeps

/-!
# What a check makes of pools

A check of all pools reads one report after another. `judged` says what it has made of the pools
that it has read of, in whatever order: those that did not answer are marked, and discarded if
nobody holds them; the others lose their marks. `tally` is what it has counted by then. A check that
reads one more report judges one more pool: `Judged.noteProbe`.
-/

namespace Tenancy

/-- A pool after a ping that failed at a time, or did not. -/
def Pool.diagnosed (p : Pool) (failure? : Option Nat) : Pool :=
  { p with unhealthySince := failure?.bind fun time => p.unhealthySince.or (some (max time 1)) }

namespace Manager

variable {m m₀ : Manager} {task : TaskId} {t : TenantId} {id : PoolId} {sweeper : Sweeper}
  {noted : List (TenantId × PoolId)} {e : TenantId × PoolId}

/-- When the pings of pools fail that do. -/
abbrev Diagnosis := PoolId → Option Nat

variable {v : Diagnosis}

/-- Whether a check closes a pool: its ping fails, and nobody holds it. -/
def dooms (m : Manager) (v : Diagnosis) (id : PoolId) : Bool :=
  (v id).isSome && !m.isReferenced id

/-- Those of several pools that a check closes, with the reason. -/
def doomed (m : Manager) (v : Diagnosis) (noted : List (TenantId × PoolId)) : List Doomed :=
  (noted.filter fun e => m.dooms v e.2).map fun e => (e.1, e.2, "health check failed")

/-- The answers to the pings of several pools are recorded in them. -/
def diagnose (m : Manager) (v : Diagnosis) (noted : List (TenantId × PoolId)) : Manager :=
  { m with
    pools := noted.foldl (fun pools e => pools.modify e.2 (·.diagnosed (v e.2))) m.pools }

/-- A manager when a check has dealt with several pools. -/
def judged (m : Manager) (v : Diagnosis) (noted : List (TenantId × PoolId)) : Manager :=
  (m.diagnose v noted).discards (m.doomed v noted)

/-- What the check has counted by then. -/
def tally (m : Manager) (v : Diagnosis) (noted : List (TenantId × PoolId)) : HealthSweep where
  checked := noted.length
  failed := noted.countP fun e => (v e.2).isSome
  recovered := noted.countP fun e =>
    (v e.2).isNone && (m.pools[e.2]?).elim false Pool.isUnhealthy
  closed := noted.countP fun e => m.dooms v e.2

/-! ### Pools -/

lemma diagnosed_diagnosed (p : Pool) (failure? : Option Nat) :
    (p.diagnosed failure?).diagnosed failure? = p.diagnosed failure? := by
  cases failure? with
  | none => rfl
  | some time => simp [Pool.diagnosed]

lemma getElem?_pools_diagnose (m : Manager) (v : Diagnosis) (noted : List (TenantId × PoolId))
    (id : PoolId) :
    (m.diagnose v noted).pools[id]? =
      (m.pools[id]?).map fun p => if id ∈ noted.map Prod.snd then p.diagnosed (v id) else p := by
  simp only [diagnose]
  induction noted generalizing m with
  | nil => simp
  | cons e rest ih =>
    rw [List.foldl_cons]
    have hrest := ih { m with pools := m.pools.modify e.2 (·.diagnosed (v e.2)) }
    simp only at hrest
    rw [hrest, List.getElem?_modify]
    cases m.pools[id]? with
    | none => rfl
    | some p =>
      by_cases heq : e.2 = id
      · simp [heq, diagnosed_diagnosed]
      · have hmem : id ∈ (e :: rest).map Prod.snd ↔ id ∈ rest.map Prod.snd := by
          rw [List.map_cons, List.mem_cons, or_iff_right (Ne.symm heq)]
        simp only [if_neg heq, hmem, Option.map_some]
        rfl

/-- What has become of a pool. -/
lemma getElem?_pools_judged (m : Manager) (v : Diagnosis) (noted : List (TenantId × PoolId))
    (id : PoolId) :
    (m.judged v noted).pools[id]? =
      (m.pools[id]?).map fun p =>
        if id ∈ noted.map Prod.snd then
          { p.diagnosed (v id) with closed := p.closed || m.dooms v id }
        else p := by
  rw [judged, getElem?_pools_discards, getElem?_pools_diagnose, Option.map_map]
  refine Option.map_congr fun p _ => ?_
  have hmem : id ∈ (m.doomed v noted).map (·.2.1) ↔
      id ∈ noted.map Prod.snd ∧ m.dooms v id = true := by
    simp only [doomed, List.map_map, Function.comp_def, List.mem_map, List.mem_filter]
    constructor
    · rintro ⟨e, ⟨hmem, hdooms⟩, rfl⟩
      exact ⟨⟨e, hmem, rfl⟩, hdooms⟩
    · rintro ⟨⟨e, hmem, rfl⟩, hdooms⟩
      exact ⟨e, ⟨hmem, hdooms⟩, rfl⟩
  simp only [Function.comp, hmem]
  by_cases hnoted : id ∈ noted.map Prod.snd
  · cases hdooms : m.dooms v id
    · simp [hnoted]
      rfl
    · simp [hnoted]
  · simp [hnoted]

/-- What was not noted is still in use. -/
lemma get?_entries_judged (h : t ∉ noted.map Prod.fst) :
    (m.judged v noted).entries.get? t = m.entries.get? t := by
  have hdoomed : t ∉ (m.doomed v noted).map Prod.fst := by
    simp only [doomed, List.map_map, List.mem_map, List.mem_filter]
    rintro ⟨e, ⟨hmem, -⟩, rfl⟩
    exact h (List.mem_map.2 ⟨e, hmem, rfl⟩)
  apply Option.ext
  intro id
  rw [Assoc.get?_eq_some_iff, Assoc.get?_eq_some_iff, judged, toList_entries_discards,
    List.mem_filter]
  exact and_iff_left (by simpa using hdoomed)

/-! ### One more report -/

lemma discard_modifyPool {f : Pool → Pool} (hf : ∀ p, (f p).connections = p.connections)
    (hclosed : ∀ p, f { p with closed := true } = { f p with closed := true }) (m : Manager)
    (id : PoolId) (x : Doomed) : (m.modifyPool id f).discard x = (m.discard x).modifyPool id f := by
  have hpools : (m.pools.modify id f).modify x.2.1 (fun p => { p with closed := true }) =
      (m.pools.modify x.2.1 fun p => { p with closed := true }).modify id f := by
    apply List.ext_getElem?
    intro i
    simp only [List.getElem?_modify]
    cases m.pools[i]? with
    | none => rfl
    | some p =>
      by_cases hx : x.2.1 = i
      · by_cases hid : id = i
        · simp [hx, hid, hclosed]
        · simp [hx, hid]
      · simp [hx]
  rw [discard, connectionsOf_modifyPool m id hf]
  simp only [modifyPool, discard, hpools]

lemma discards_modifyPool {f : Pool → Pool} (hf : ∀ p, (f p).connections = p.connections)
    (hclosed : ∀ p, f { p with closed := true } = { f p with closed := true }) (m : Manager)
    (id : PoolId) (doomed : List Doomed) :
    (m.modifyPool id f).discards doomed = (m.discards doomed).modifyPool id f := by
  induction doomed generalizing m with
  | nil => rfl
  | cons x rest ih =>
    have hcons (m : Manager) : m.discards (x :: rest) = (m.discard x).discards rest := rfl
    rw [hcons, hcons, discard_modifyPool hf hclosed, ih]

lemma doomed_append (m : Manager) (v : Diagnosis) (noted later : List (TenantId × PoolId)) :
    m.doomed v (noted ++ later) = m.doomed v noted ++ m.doomed v later := by
  rw [doomed, List.filter_append, List.map_append]
  rfl

lemma doomed_singleton (m : Manager) (v : Diagnosis) (e : TenantId × PoolId) :
    m.doomed v [e] = if m.dooms v e.2 then [(e.1, e.2, "health check failed")] else [] := by
  cases h : m.dooms v e.2 <;> simp [doomed, h]

lemma judged_concat (m : Manager) (v : Diagnosis) (noted : List (TenantId × PoolId))
    (e : TenantId × PoolId) :
    m.judged v (noted ++ [e]) =
      ((m.judged v noted).modifyPool e.2 (·.diagnosed (v e.2))).discards (m.doomed v [e]) := by
  have hdiagnose : m.diagnose v (noted ++ [e]) =
      (m.diagnose v noted).modifyPool e.2 (·.diagnosed (v e.2)) := by
    simp only [diagnose, modifyPool, List.foldl_append, List.foldl_cons, List.foldl_nil]
  rw [judged, doomed_append, hdiagnose, discards_append,
    discards_modifyPool (f := fun p => p.diagnosed (v e.2)) (fun _ => rfl) fun _ => rfl]
  rfl

lemma markHealthy_eq (p : Pool) : p.markHealthy = (p.isUnhealthy, p.diagnosed none) := rfl

lemma markUnhealthy_eq (p : Pool) (now : Nat) :
    (p.markUnhealthy now).2 = p.diagnosed (some now) := by
  cases h : p.unhealthySince with
  | none => simp [Pool.markUnhealthy, Pool.isUnhealthy, Pool.diagnosed, h]
  | some since =>
    obtain ⟨tenant, connections, created, lastUsed, refs, unhealthySince, closed⟩ := p
    cases h
    rfl

lemma tally_concat (m : Manager) (v : Diagnosis) (noted : List (TenantId × PoolId))
    (e : TenantId × PoolId) :
    m.tally v (noted ++ [e]) =
      { checked := (m.tally v noted).checked + 1
        failed := (m.tally v noted).failed + (v e.2).isSome.toNat
        recovered := (m.tally v noted).recovered +
          ((v e.2).isNone && (m.pools[e.2]?).elim false Pool.isUnhealthy).toNat
        closed := (m.tally v noted).closed + (m.dooms v e.2).toNat } := by
  have hcount {p : TenantId × PoolId → Bool} :
      (noted ++ [e]).countP p = noted.countP p + (p e).toNat := by
    rw [List.countP_append, List.countP_singleton]
    cases p e <;> rfl
  simp only [tally, hcount, List.length_append, List.length_singleton]

/-- A manager in which a check has dealt with several pools, whatever its tasks do meanwhile. -/
def Judged (m₀ : Manager) (v : Diagnosis) (noted : List (TenantId × PoolId)) (m : Manager) : Prop :=
  m = { m₀.judged v noted with
    now := m.now, tasks := m.tasks, nextTask := m.nextTask, reports := m.reports }

namespace Judged

/-- What becomes of a pool of which the check reads next. -/
lemma noteProbe {result : Except PingFault Unit} (h : Judged m₀ v noted m)
    (hresult : match result with
      | .ok _ => v id = none
      | .error _ => v id = some m.now)
    (ht : t ∉ noted.map Prod.fst) (hid : id ∉ noted.map Prod.snd)
    (hentry : m₀.entries.get? t = some id) (task : TaskId) (sweeper : Sweeper) :
    m.noteProbe task sweeper (m₀.tally v noted) t id result =
      if m₀.dooms v id then
        (m.modifyPool id (·.diagnosed (v id))).beginClose task t id "health check failed"
          (.probe sweeper
            { m₀.tally v (noted ++ [(t, id)]) with closed := (m₀.tally v noted).closed })
      else
        (m.modifyPool id (·.diagnosed (v id))).awaitProbes task sweeper
          (m₀.tally v (noted ++ [(t, id)])) := by
  have hpool : m.pools[id]? = m₀.pools[id]? := by
    rw [h]
    refine (getElem?_pools_judged m₀ v noted id).trans ?_
    simp [hid]
  cases result with
  | ok _ =>
    have hv : v id = none := hresult
    simp only [Manager.noteProbe, dooms, hv, tally_concat, hpool, markHealthy_eq]
    cases (m₀.pools[id]?).elim false Pool.isUnhealthy <;> simp
  | error fault =>
    have hv : v id = some m.now := hresult
    have hreferenced : (m.modifyPool id (·.diagnosed (some m.now))).isReferenced id =
        m₀.isReferenced id := by
      simp only [isReferenced, modifyPool, List.getElem?_modify, hpool]
      cases m₀.pools[id]? with
      | none => rfl
      | some p => simp [Pool.isReferenced, Pool.diagnosed]
    have hholds : (m.modifyPool id (·.diagnosed (some m.now))).holds t id = true := by
      have hentries : m.entries.get? t = some id := by
        rw [h]
        exact (get?_entries_judged ht).trans hentry
      exact decide_eq_true hentries
    simp only [Manager.noteProbe, markUnhealthy_eq, hreferenced, hholds, Bool.and_true, dooms, hv,
      tally_concat]
    cases m₀.isReferenced id <;> simp

lemma note (h : Judged m₀ v noted m) (hdooms : m₀.dooms v e.2 = false) :
    Judged m₀ v (noted ++ [e]) (m.modifyPool e.2 (·.diagnosed (v e.2))) := by
  rw [Judged, judged_concat, doomed_singleton, hdooms]
  conv_lhs => rw [h]
  rfl

lemma discard (h : Judged m₀ v noted m) (hdooms : m₀.dooms v e.2 = true) :
    Judged m₀ v (noted ++ [e])
      ((m.modifyPool e.2 (·.diagnosed (v e.2))).discard (e.1, e.2, "health check failed")) := by
  rw [Judged, judged_concat, doomed_singleton, hdooms]
  conv_lhs => rw [h]
  rfl

/-- Tasks do not matter to what the check has made of pools. -/
lemma reframe (h : Judged m₀ v noted m) (now : Nat) (tasks : Assoc TaskId Stage)
    (nextTask : TaskId) (reports : List (TaskId × Report)) :
    Judged m₀ v noted { m with now, tasks, nextTask, reports } := by
  rw [Judged]
  conv_lhs => rw [h]

end Judged

/-! ### All reports -/

lemma tally_perm {noted' : List (TenantId × PoolId)} (h : noted.Perm noted') (m : Manager)
    (v : Diagnosis) : m.tally v noted = m.tally v noted' := by
  simp only [tally, h.length_eq, h.countP_eq]

lemma length_doomed (m : Manager) (v : Diagnosis) (noted : List (TenantId × PoolId)) :
    (m.doomed v noted).length = (m.tally v noted).closed := by
  rw [doomed, List.length_map, ← List.countP_eq_length_filter]
  rfl

lemma mem_doomed {x : Doomed} : x ∈ m.doomed v noted ↔
    (x.1, x.2.1) ∈ noted ∧ m.dooms v x.2.1 = true ∧ x.2.2 = "health check failed" := by
  obtain ⟨t, id, reason⟩ := x
  simp only [doomed, List.mem_map, List.mem_filter, Prod.exists, Prod.mk.injEq]
  constructor
  · rintro ⟨t, id, ⟨hmem, hdooms⟩, rfl, rfl, rfl⟩
    exact ⟨hmem, hdooms, rfl⟩
  · rintro ⟨hmem, hdooms, rfl⟩
    exact ⟨t, id, ⟨hmem, hdooms⟩, rfl, rfl, rfl⟩

lemma connectionsOf_diagnose (m : Manager) (v : Diagnosis) (noted : List (TenantId × PoolId)) :
    (m.diagnose v noted).connectionsOf = m.connectionsOf := by
  funext id
  rw [connectionsOf, connectionsOf, getElem?_pools_diagnose, Option.map_map]
  refine Option.map_congr fun p _ => ?_
  simp only [Function.comp]
  split <;> rfl

lemma InUse.diagnose (h : m.InUse) (v : Diagnosis) (noted : List (TenantId × PoolId)) :
    (m.diagnose v noted).InUse := by
  have hcollect : (m.diagnose v noted).entries.collect (m.diagnose v noted).connectionsOf =
      m.entries.collect m.connectionsOf := by
    rw [connectionsOf_diagnose]
    rfl
  refine ⟨⟨h.mapped.injective, fun ht => ?_, fun {id p} hp => ?_⟩, ?_, hcollect ▸ h.nodup⟩
  · obtain ⟨p, hp⟩ := h.mapped.exists_pool ht
    exact ⟨_, (getElem?_pools_diagnose m v noted _).trans (congrArg _ hp)⟩
  · rw [getElem?_pools_diagnose] at hp
    obtain ⟨p', hp', rfl⟩ := Option.map_eq_some_iff.1 hp
    have hclosed := h.mapped.unclosed_iff hp'
    split <;> exact hclosed
  · rw [hcollect]
    exact h.isOpen

/-- When a check has dealt with all pools in use, those are left that it does not close. -/
lemma toList_entries_judged (hperm : noted.Perm m.entries.toList) :
    (m.judged v noted).entries.toList =
      m.entries.toList.filter fun e => !m.dooms v e.2 := by
  rw [judged, toList_entries_discards]
  refine List.filter_congr fun e he => ?_
  have hentry : m.entries.get? e.1 = some e.2 := Assoc.get?_eq_some_iff.2 he
  have hdoomed : e.1 ∈ (m.doomed v noted).map Prod.fst ↔ m.dooms v e.2 = true := by
    rw [List.mem_map]
    constructor
    · rintro ⟨⟨t, id, reason⟩, hx, rfl⟩
      obtain ⟨hmem, hdooms, -⟩ := mem_doomed.1 hx
      have hsame := hentry.symm.trans (Assoc.get?_eq_some_iff.2 (hperm.mem_iff.1 hmem))
      rwa [Option.some.inj hsame]
    · intro hdooms
      exact ⟨(e.1, e.2, "health check failed"), mem_doomed.2 ⟨hperm.mem_iff.2 he, hdooms, rfl⟩, rfl⟩
  rw [decide_not]
  simp only [hdoomed, Bool.decide_eq_true]

lemma slots_judged (m : Manager) (v : Diagnosis) (noted : List (TenantId × PoolId)) :
    (m.judged v noted).slots = m.slots - (m.tally v noted).closed := by
  rw [judged, discards_eq, ← length_doomed]
  rfl

lemma closures_judged (m : Manager) (v : Diagnosis) (noted : List (TenantId × PoolId)) :
    (m.judged v noted).closures = m.closures ++
      (noted.filter fun e => m.dooms v e.2).map fun e => (e.1, "health check failed") := by
  have hdoomed : (m.doomed v noted).map (fun x => (x.1, x.2.2)) =
      (noted.filter fun e => m.dooms v e.2).map fun e => (e.1, "health check failed") := by
    rw [doomed, List.map_map]
    rfl
  rw [judged, discards_eq, ← hdoomed]
  rfl

lemma opened_judged (m : Manager) (v : Diagnosis) (noted : List (TenantId × PoolId)) :
    (m.judged v noted).ledger.opened = m.ledger.opened := by
  rw [judged, discards_eq]
  exact Ledger.opened_foldl_close _ _

lemma getElem?_of_judged {i : ConnectionsId} {c : Connections}
    (h : (m.judged v noted).ledger.all[i]? = some c) (hopen : c.closed = false) :
    m.ledger.all[i]? = some c := by
  rw [judged, discards_eq] at h
  exact Ledger.getElem?_of_foldl_close h hopen

/-- The connections of the pools that the check closes are closed, and no others. -/
lemma isClosed_judged (m : Manager) (v : Diagnosis) (noted : List (TenantId × PoolId))
    (id : ConnectionsId) :
    (m.judged v noted).ledger.isClosed id = true ↔ m.ledger.isClosed id = true ∨
      ∃ e ∈ noted, m.dooms v e.2 = true ∧ m.connectionsOf e.2 = some id := by
  rw [judged, discards_eq, connectionsOf_diagnose, Ledger.isClosed_foldl_close, Bool.or_eq_true,
    decide_eq_true_iff, List.mem_filterMap]
  refine or_congr .rfl ?_
  constructor
  · rintro ⟨x, hx, hid⟩
    obtain ⟨hmem, hdooms, -⟩ := mem_doomed.1 hx
    exact ⟨_, hmem, hdooms, hid⟩
  · rintro ⟨e, hmem, hdooms, hid⟩
    exact ⟨(e.1, e.2, "health check failed"), mem_doomed.2 ⟨hmem, hdooms, rfl⟩, hid⟩

/-- The connections of a pool in use stay open as long as the check does not read of it. -/
lemma InUse.isClosed_judged (h : m.InUse) (hnoted : ∀ e ∈ noted, e ∈ m.entries.toList)
    (ht : t ∉ noted.map Prod.fst) (hentry : m.entries.get? t = some id) {i : ConnectionsId}
    (hid : m.connectionsOf id = some i) : (m.judged v noted).ledger.isClosed i = false := by
  have hperm := Assoc.collect_perm hentry m.connectionsOf
  rw [hid] at hperm
  have hfirst : i ∉ (m.entries.erase t).collect m.connectionsOf :=
    (List.nodup_cons.1 (hperm.nodup_iff.1 h.nodup)).1
  rw [← Bool.not_eq_true, Manager.isClosed_judged]
  rintro (hclosed | ⟨e, he, -, hsame⟩)
  · rw [h.isOpen i (hperm.mem_iff.2 List.mem_cons_self)] at hclosed
    cases hclosed
  · refine hfirst (Assoc.mem_collect.2 ⟨e.1, e.2, ?_, hsame⟩)
    have hne : e.1 ≠ t := fun heq => ht (List.mem_map.2 ⟨e, he, heq⟩)
    rw [Assoc.get?_erase, if_neg hne]
    exact Assoc.get?_eq_some_iff.2 (hnoted e he)

lemma InUse.closed_judged (h : m.InUse) (v : Diagnosis) (hperm : noted.Perm m.entries.toList) :
    (m.judged v noted).ledger.closed = m.ledger.closed + (m.tally v noted).closed := by
  have hsub : ((m.doomed v noted).map fun x => (x.1, x.2.1)).Subperm m.entries.toList := by
    have hdoomed : ((m.doomed v noted).map fun x => (x.1, x.2.1)) =
        noted.filter fun e => m.dooms v e.2 := by
      rw [doomed, List.map_map]
      exact List.map_id _
    rw [hdoomed]
    exact List.filter_sublist.subperm.trans hperm.subperm
  rw [← length_doomed]
  exact (h.diagnose v noted).closed_discards hsub

end Manager

end Tenancy
