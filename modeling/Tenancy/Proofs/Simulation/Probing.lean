import Tenancy.Proofs.Manager.Judgement
import Tenancy.Proofs.Manager.Started
import Tenancy.Proofs.Simulation.Alone

/-!
# Tasks that ping for a check

A check of all pools starts a task for each, which ping at the same time, and reads their reports in
the order in which they come. `Checking` says where a check stands, by the pools that it has read
of: the others are those that tasks are to ping and those of which reports are there. A turn of a
task that pings leads on from such a state to another one, with less `work` left:
`Checking.turn_child`.
-/

namespace Tenancy

open Manager (TaskId PoolId Stage Answer Request Outcome Event Report Diagnosis Judged HealthSweep
  pingTimeout)

variable {k j : TaskId} {t : TenantId} {id : PoolId} {stage : Stage}

namespace Manager

/-- The pool that a report is about. -/
def Report.probed? : Report → Option (TenantId × PoolId)
  | .probed t id _ => some (t, id)
  | .warmed _ => none

/-- The pool that a task pings for another one. -/
def Stage.probeFor? (k : TaskId) (s : Stage) : Option (TenantId × PoolId) :=
  if s.parent? = some k then s.probe? else none

/-- The pools that are pinged for a task. -/
def probing (m : Manager) (k : TaskId) : List (TenantId × PoolId) :=
  m.tasks.collect (Stage.probeFor? k)

/-- The pools of which a task has reports to read. -/
def reported (m : Manager) (k : TaskId) : List (TenantId × PoolId) :=
  (m.reports.filter (·.1 = k)).filterMap fun r => r.2.probed?

/-- The first report to a task is that of the first of the pools. -/
lemma reported_dropReport {m : Manager} {r : Report} (h : m.nextReport? k = some r) :
    m.reported k = r.probed?.toList ++ (m.dropReport k).reported k := by
  obtain ⟨⟨k', r'⟩, hfind, rfl⟩ := Option.map_eq_some_iff.1 h
  rw [reported, filter_eq_cons_of_find? hfind, reported, dropReport]
  cases hr : r'.probed? <;> simp [hr]

lemma mem_reported {m : Manager} {result : Except PingFault Unit}
    (h : m.nextReport? k = some (.probed t id result)) : (t, id) ∈ m.reported k := by
  rw [reported_dropReport h]
  exact List.mem_cons_self

end Manager

namespace Simulation

variable {s s' s'' : Simulation} {noted noted' : List (TenantId × PoolId)}

lemma Sound.inUse (h : s.Sound) : s.manager.InUse := by
  obtain ⟨config, events, hrun⟩ := h.run
  exact hrun ▸ Manager.inUse_run config events

/-! ### Databases -/

/-- What the database of a pool does with pings. -/
def behaviorOf (s : Simulation) (id : PoolId) : Behavior :=
  ((s.manager.connectionsOf id).bind (s.manager.ledger.all[·]?)).elim .healthy
    fun c => s.backend.behavior c.database

/-- When the pings of pools fail that do, if a check starts now: those that are refused at once, and
those that are left without an answer when the check no longer waits for them. -/
def failure? (s : Simulation) : Diagnosis := fun id =>
  match s.behaviorOf id with
  | .healthy => none
  | .failing => some s.now
  | .hanging => some (tick (s.now + pingTimeout.nanos))

/-! ### Where a check stands -/

/-- A task that pings a pool for a check. -/
inductive Probe (s : Simulation) (k : TaskId) (s' : Simulation) (j : TaskId) : Stage → Prop
  | queued {t : TenantId} {id : PoolId} (hidle : s'.pending.get? j = none)
      (hnow : s'.now = s.now) : Probe s k s' j (.probeQueued k t id)
  | asking {t : TenantId} {id : PoolId} (hidle : s'.pending.get? j = none)
      (hnow : s'.now = s.now) :
      Probe s k s' j (.probePinging k t id (s.now + pingTimeout.nanos))
  | waiting {t : TenantId} {id : PoolId} (hwaits : s'.pending.get? j = some none)
      (hhangs : s.behaviorOf id = .hanging) :
      Probe s k s' j (.probePinging k t id (s.now + pingTimeout.nanos))

/-- A report to a check, which says at the right time what the database does. -/
inductive Tells (s s' : Simulation) : Report → Prop
  | ok {t : TenantId} {id : PoolId} (h : s.failure? id = none) : Tells s s' (.probed t id (.ok ()))
  | error {t : TenantId} {id : PoolId} {fault : PingFault} (h : s.failure? id = some s'.now) :
      Tells s s' (.probed t id (.error fault))

/-- How far the check `k` has come, which has read of some pools. -/
structure Progress (s : Simulation) (k : TaskId) (noted : List (TenantId × PoolId))
    (s' : Simulation) : Prop where
  /-- Every pool in use is read of, reported or still pinged. -/
  pools : (noted ++ (s'.manager.reported k ++ s'.manager.probing k)).Perm
    s.manager.entries.toList
  probe : ∀ j stage, s'.manager.tasks.get? j = some stage → stage.parent? = some k →
    Probe s k s' j stage
  report : ∀ r, (k, r) ∈ s'.manager.reports → Tells s s' r
  past : ∀ e ∈ noted, ∀ time ∈ s.failure? e.2, time ≤ s'.now
  /-- The time is that of the beginning, unless a ping was waited for in vain. -/
  clock : s'.now = s.now ∨ s'.now = tick (s.now + pingTimeout.nanos) ∧
    ∃ e ∈ s.manager.entries.toList, s.behaviorOf e.2 = .hanging
  older : ∀ j < k, s'.manager.tasks.get? j = s.manager.tasks.get? j
  newer : ∀ j stage, k < j → s'.manager.tasks.get? j = some stage → stage.parent? = some k
  others : s'.manager.reports.filter (·.1 ≠ k) = s.manager.reports
  backend : s'.backend = { s.backend with pings := s'.backend.pings }
  idle : s'.pending.get? k = none

/-- What a check waits for itself. -/
inductive Reads (s : Simulation) (k : TaskId) (noted : List (TenantId × PoolId))
    (s' : Simulation) : Stage → Prop
  | probing (hleft : s'.manager.expectsReports k = true) :
      Reads s k noted s' (.probing .caller (s.manager.tally s.failure? noted))
  | closing {t : TenantId} {id : PoolId} {reason : String} {sweep : HealthSweep}
      (hsweep : { sweep with closed := sweep.closed + 1 } = s.manager.tally s.failure? noted) :
      Reads s k noted s' (.closing t id reason (.probe .caller sweep))

/-- A check is under way. -/
structure Checking (s : Simulation) (k : TaskId) (noted : List (TenantId × PoolId))
    (s' : Simulation) : Prop extends Progress s k noted s' where
  reader : ∃ stage, s'.manager.tasks.get? k = some stage ∧ Reads s k noted s' stage ∧
    Judged s.manager s.failure? noted (s'.manager.closeHeld stage)

/-- A check has ended. -/
structure Checked (s : Simulation) (k : TaskId) (noted : List (TenantId × PoolId))
    (s' : Simulation) : Prop extends Progress s k noted s' where
  ended : s'.manager.tasks.get? k = none
  none_left : s'.manager.expectsReports k = false
  manager : s'.manager =
    { s.manager.judged s.failure? noted with
      now := s'.now
      tasks := s'.manager.tasks
      nextTask := s'.manager.nextTask
      reports := s'.manager.reports
      outcomes := s.manager.outcomes.insert k (.swept (s.manager.tally s.failure? noted)) }

/-- The work that is left: the more, the further away the reading of a report is. -/
def effort (s' : Simulation) (k j : TaskId) (stage : Stage) : Nat :=
  if stage.parent? = some k then
    match stage with
    | .probeQueued _ _ _ => 5
    | _ => if (s'.pending.get? j).isSome then 3 else 4
  else 0

/-- All work that is left until the check has ended, if it began at this time. -/
def work (s' : Simulation) (k : TaskId) (start : Nat) : Nat :=
  (s'.manager.tasks.toList.map fun e => s'.effort k e.1 e.2).sum +
    2 * (s'.manager.reported k).length +
    (s'.manager.tasks.get? k).elim 0 (fun stage => stage.isClosing.toNat) +
    if s'.now = start then 1 else 0

/-! ### What one task changes -/

namespace Progress

/-- Of a step of one task only what it changes matters. -/
lemma update (h : Progress s k noted s') (hj : k ≤ j)
    (htasks : ∀ i ≠ j, s''.manager.tasks.get? i = s'.manager.tasks.get? i)
    (hpending : ∀ i ≠ j, s''.pending.get? i = s'.pending.get? i)
    (hidle : s''.pending.get? k = none) (hnow : s''.now = s'.now)
    (hbackend : s''.backend = { s.backend with pings := s''.backend.pings })
    (hpools : (noted' ++ (s''.manager.reported k ++
        ((s''.manager.tasks.get? j).bind (Stage.probeFor? k)).toList)).Perm
      (noted ++ (s'.manager.reported k ++
        ((s'.manager.tasks.get? j).bind (Stage.probeFor? k)).toList)))
    (hprobe : ∀ stage, s''.manager.tasks.get? j = some stage → stage.parent? = some k →
      Probe s k s'' j stage)
    (hnewer : ∀ stage, k < j → s''.manager.tasks.get? j = some stage → stage.parent? = some k)
    (hreport : ∀ r, (k, r) ∈ s''.manager.reports → (k, r) ∈ s'.manager.reports ∨ Tells s s'' r)
    (hothers : s''.manager.reports.filter (·.1 ≠ k) = s'.manager.reports.filter (·.1 ≠ k))
    (hnoted : ∀ e ∈ noted', e ∈ noted ∨ ∀ time ∈ s.failure? e.2, time ≤ s''.now) :
    Progress s k noted' s'' where
  pools := by
    obtain ⟨rest, hold, hnew, -⟩ := Assoc.exists_rest htasks
    have hcontributes {tasks : Assoc TaskId Stage}
        (hperm : tasks.toList.Perm (((tasks.get? j).map (j, ·)).toList ++ rest)) :
        (tasks.collect (Stage.probeFor? k)).Perm
          (((tasks.get? j).bind (Stage.probeFor? k)).toList ++
            rest.filterMap fun e => Stage.probeFor? k e.2) := by
      refine (hperm.filterMap _).trans ?_
      rw [List.filterMap_append]
      cases tasks.get? j with
      | none => exact .refl _
      | some stage => cases hs : stage.probeFor? k <;> simp [hs]
    refine List.Perm.trans ?_ h.pools
    refine (((hcontributes hnew).append_left _).append_left _).trans
      (List.Perm.trans ?_ (((hcontributes hold).append_left _).append_left _).symm)
    simpa only [List.append_assoc] using hpools.append_right _
  probe i stage hi hparent := by
    by_cases heq : i = j
    · exact heq ▸ hprobe stage (heq ▸ hi) hparent
    · rw [htasks i heq] at hi
      cases h.probe i stage hi hparent with
      | queued hidle htime => exact .queued ((hpending i heq).trans hidle) (hnow.trans htime)
      | asking hidle htime => exact .asking ((hpending i heq).trans hidle) (hnow.trans htime)
      | waiting hwaits hhangs => exact .waiting ((hpending i heq).trans hwaits) hhangs
  report r hr := by
    rcases hreport r hr with hold | htells
    · cases h.report r hold with
      | ok hv => exact .ok hv
      | error hv => exact .error (hnow ▸ hv)
    · exact htells
  past e he time htime := by
    rcases hnoted e he with hold | hlate
    · exact hnow ▸ h.past e hold time htime
    · exact hlate time htime
  clock := by
    rw [hnow]
    exact h.clock
  older i hi := (htasks i (hi.trans_le hj).ne).trans (h.older i hi)
  newer i stage hi hs := by
    by_cases heq : i = j
    · exact hnewer stage (heq ▸ hi) (heq ▸ hs)
    · exact h.newer i stage hi ((htasks i heq).symm.trans hs)
  others := hothers.trans h.others
  backend := hbackend
  idle := hidle

/-- Of what is not read of yet, neither the tenant nor the pool was read of. -/
lemma not_mem (h : Progress s k noted s') (hu : s.manager.InUse)
    (he : (t, id) ∈ s'.manager.reported k ++ s'.manager.probing k) :
    (t, id) ∈ s.manager.entries.toList ∧ t ∉ noted.map Prod.fst ∧ id ∉ noted.map Prod.snd := by
  have hmem : (t, id) ∈ s.manager.entries.toList :=
    h.pools.mem_iff.1 (List.mem_append_right _ he)
  have htenants := (h.pools.map Prod.fst).nodup_iff.2 s.manager.entries.nodup
  have hids := (h.pools.map Prod.snd).nodup_iff.2 hu.mapped.nodup_ids
  rw [List.map_append] at htenants hids
  refine ⟨hmem, fun ht => ?_, fun hid => ?_⟩
  · exact List.disjoint_of_nodup_append htenants ht (List.mem_map.2 ⟨_, he, rfl⟩)
  · exact List.disjoint_of_nodup_append hids hid (List.mem_map.2 ⟨_, he, rfl⟩)

lemma mem_probing (hj : s'.manager.tasks.get? j = some stage) {e : TenantId × PoolId}
    (he : stage.probeFor? k = some e) : e ∈ s'.manager.probing k :=
  Assoc.mem_collect.2 ⟨j, stage, hj, he⟩

lemma lt_of_child (h : Progress s k noted s') (hc : s.Childless k)
    (hj : s'.manager.tasks.get? j = some stage) (hparent : stage.parent? = some k)
    (hne : j ≠ k) : k < j := by
  by_contra hle
  have hlt : j < k := lt_of_le_of_ne (not_lt.1 hle) hne
  exact hc j stage ((h.older j hlt).symm.trans hj) hparent

end Progress

lemma effort_congr (h : s''.pending.get? j = s'.pending.get? j) (stage : Stage) :
    s''.effort k j stage = s'.effort k j stage := by
  simp only [effort, h]

/-- Of the work that is left only that of the task that goes on is another. -/
lemma sum_effort (htasks : ∀ i ≠ j, s''.manager.tasks.get? i = s'.manager.tasks.get? i)
    (hpending : ∀ i ≠ j, s''.pending.get? i = s'.pending.get? i) :
    (s''.manager.tasks.toList.map fun e => s''.effort k e.1 e.2).sum +
        (s'.manager.tasks.get? j).elim 0 (s'.effort k j) =
      (s'.manager.tasks.toList.map fun e => s'.effort k e.1 e.2).sum +
        (s''.manager.tasks.get? j).elim 0 (s''.effort k j) := by
  obtain ⟨rest, hold, hnew, hrest⟩ := Assoc.exists_rest htasks
  have hsame : (rest.map fun e => s''.effort k e.1 e.2) = rest.map fun e => s'.effort k e.1 e.2 :=
    List.map_congr_left fun e he => effort_congr (hpending e.1 (hrest e he)) e.2
  rw [(hold.map _).sum_eq, (hnew.map _).sum_eq]
  simp only [List.map_append, List.sum_append, hsame]
  cases s'.manager.tasks.get? j <;> cases s''.manager.tasks.get? j <;> simp <;> omega

/-- There is less work left when the task that goes on has less to do. -/
lemma work_lt {start : Nat}
    (htasks : ∀ i ≠ j, s''.manager.tasks.get? i = s'.manager.tasks.get? i)
    (hpending : ∀ i ≠ j, s''.pending.get? i = s'.pending.get? i) (hnow : s''.now = s'.now)
    (hless : (s''.manager.tasks.get? j).elim 0 (s''.effort k j) +
        2 * (s''.manager.reported k).length +
        (s''.manager.tasks.get? k).elim 0 (fun stage => stage.isClosing.toNat) <
      (s'.manager.tasks.get? j).elim 0 (s'.effort k j) + 2 * (s'.manager.reported k).length +
        (s'.manager.tasks.get? k).elim 0 (fun stage => stage.isClosing.toNat)) :
    s''.work k start < s'.work k start := by
  have hsum := sum_effort (k := k) htasks hpending
  rw [work, work, hnow]
  omega

/-! ### Tasks that ping -/

namespace Checking

/-- The check itself does not notice what a task does that pings. -/
lemma of_child (h : Checking s k noted s') (hp : Progress s k noted s'')
    (hm : s''.manager =
      { s'.manager with tasks := s''.manager.tasks, reports := s''.manager.reports })
    (hk : s''.manager.tasks.get? k = s'.manager.tasks.get? k)
    (hleft : s''.manager.expectsReports k = true) : Checking s k noted s'' := by
  obtain ⟨stage, hstage, hreads, hjudged⟩ := h.reader
  refine ⟨hp, stage, hk.trans hstage, ?_, ?_⟩
  · cases hreads with
    | probing => exact .probing hleft
    | closing hsweep => exact .closing hsweep
  · have hframe := hjudged.reframe s'.manager.now s''.manager.tasks s'.manager.nextTask
      s''.manager.reports
    rw [hm]
    exact hframe

lemma ne_of_child (h : Checking s k noted s') (hj : s'.manager.tasks.get? j = some stage)
    (hparent : stage.parent? = some k) : j ≠ k := by
  rintro rfl
  obtain ⟨stage', hstage, hreads, -⟩ := h.reader
  rw [hj] at hstage
  cases hstage
  cases hreads <;> cases hparent

/-- A task that pings goes on to do so. -/
lemma of_await {stage' : Stage} {e : TenantId × PoolId} (h : Checking s k noted s')
    (hc : s.Childless k) (hj : s'.manager.tasks.get? j = some stage)
    (hm : s''.manager.tasks.get? j = some stage')
    (hmanager : s''.manager = { s'.manager with tasks := s''.manager.tasks })
    (htasks : ∀ i ≠ j, s''.manager.tasks.get? i = s'.manager.tasks.get? i)
    (hpending : ∀ i ≠ j, s''.pending.get? i = s'.pending.get? i)
    (hbackend : s''.backend = { s.backend with pings := s''.backend.pings })
    (hparent : stage.parent? = some k) (hparent' : stage'.parent? = some k)
    (hprobe : stage.probe? = some e) (hprobe' : stage'.probe? = some e)
    (hat : Probe s k s'' j stage') (hless : s''.effort k j stage' < s'.effort k j stage) :
    Checking s k noted s'' ∧ s''.work k s.now < s'.work k s.now := by
  have hne := h.ne_of_child hj hparent
  have hlt := h.lt_of_child hc hj hparent hne
  have hnow : s''.now = s'.now := by
    rw [now, hmanager]
    rfl
  have hreports : s''.manager.reports = s'.manager.reports := by rw [hmanager]
  have hreported : s''.manager.reported k = s'.manager.reported k := by
    rw [Manager.reported, hreports, Manager.reported]
  have hk := htasks k hne.symm
  have hfor {stage : Stage} (hp : stage.parent? = some k) (he : stage.probe? = some e) :
      stage.probeFor? k = some e := by
    rw [Stage.probeFor?, if_pos hp, he]
  constructor
  · refine h.of_child (h.update hlt.le htasks hpending ?_ hnow hbackend ?_ ?_ ?_ ?_ ?_ ?_) ?_ hk
      (Manager.expectsReports_of_child hm hparent')
    · rw [hpending k hne.symm]
      exact h.idle
    · rw [hreported, hm, hj, Option.bind_some, Option.bind_some, hfor hparent hprobe,
        hfor hparent' hprobe']
    · intro stage₁ hs₁ _
      rw [hm] at hs₁
      cases hs₁
      exact hat
    · intro stage₁ _ hs₁
      rw [hm] at hs₁
      cases hs₁
      exact hparent'
    · intro r hr
      exact .inl (hreports ▸ hr)
    · rw [hreports]
    · exact fun e he => .inl he
    · rw [hreports]
      exact hmanager
  · refine work_lt htasks hpending hnow ?_
    rw [hreported, hk, hm, hj, Option.elim_some, Option.elim_some]
    omega

/-- A task that has pinged reports it. -/
lemma of_report {result : Except PingFault Unit} (h : Checking s k noted s')
    (hc : s.Childless k) (hj : s'.manager.tasks.get? j = some stage)
    (hmanager : s''.manager = s'.manager.report j k (.probed t id result))
    (hpending : ∀ i ≠ j, s''.pending.get? i = s'.pending.get? i)
    (hbackend : s''.backend = { s.backend with pings := s''.backend.pings })
    (hparent : stage.parent? = some k) (hprobe : stage.probe? = some (t, id))
    (htells : Tells s s'' (.probed t id result)) (heffort : 3 ≤ s'.effort k j stage) :
    Checking s k noted s'' ∧ s''.work k s.now < s'.work k s.now := by
  have hne := h.ne_of_child hj hparent
  have hlt := h.lt_of_child hc hj hparent hne
  have hnow : s''.now = s'.now := by
    rw [now, hmanager]
    rfl
  have htasks : ∀ i ≠ j, s''.manager.tasks.get? i = s'.manager.tasks.get? i := by
    intro i hi
    rw [hmanager]
    exact (Assoc.get?_erase _ _ _).trans (if_neg hi)
  have hended : s''.manager.tasks.get? j = none := by
    rw [hmanager]
    exact (Assoc.get?_erase _ _ _).trans (if_pos rfl)
  have hreports : s''.manager.reports = s'.manager.reports ++ [(k, .probed t id result)] := by
    rw [hmanager]
    rfl
  have hreported : s''.manager.reported k = s'.manager.reported k ++ [(t, id)] := by
    rw [Manager.reported, hreports, List.filter_append, List.filterMap_append, Manager.reported]
    simp [Report.probed?]
  have hk := htasks k hne.symm
  have hfor : stage.probeFor? k = some (t, id) := by rw [Stage.probeFor?, if_pos hparent, hprobe]
  constructor
  · refine h.of_child (h.update hlt.le htasks hpending ?_ hnow hbackend ?_ ?_ ?_ ?_ ?_ ?_) ?_ hk ?_
    · rw [hpending k hne.symm]
      exact h.idle
    · rw [hreported, hended, hj, Option.bind_none, Option.bind_some, hfor, Option.toList_none,
        List.append_nil]
      exact .refl _
    · rw [hended]
      rintro _ ⟨⟩
    · rw [hended]
      rintro _ _ ⟨⟩
    · intro r hr
      rw [hreports, List.mem_append, List.mem_singleton] at hr
      refine hr.imp_right fun heq => ?_
      cases heq
      exact htells
    · rw [hreports, List.filter_append]
      simp
    · exact fun e he => .inl he
    · rw [hmanager]
      rfl
    · refine Manager.expectsReports_iff.2 (.inr ⟨.probed t id result, ?_⟩)
      rw [hreports]
      exact List.mem_append_right _ List.mem_cons_self
  · refine work_lt htasks hpending hnow ?_
    rw [hreported, hk, hended, hj, Option.elim_none, Option.elim_some, List.length_append,
      List.length_singleton]
    omega

/-- A pool that is still pinged is as it was, and its database does with the ping what it did. -/
lemma pingFor (h : Checking s k noted s') (hu : s.manager.InUse)
    (he : (t, id) ∈ s'.manager.reported k ++ s'.manager.probing k)
    (hidle : s'.pending.get? j = none) :
    ∃ p, s'.manager.pools[id]? = some p ∧
      match s.behaviorOf id with
      | .healthy => s'.pingFor j p.connections =
          ({ s' with backend.pings := s'.backend.pings + 1 }, some (.pinged (.ok ())))
      | .failing => ∃ fault, s'.pingFor j p.connections =
          ({ s' with backend.pings := s'.backend.pings + 1 }, some (.pinged (.error fault)))
      | .hanging => s'.pingFor j p.connections =
          ({ s' with backend.pings := s'.backend.pings + 1 }.wait j none, none) := by
  obtain ⟨hmem, ht, hid⟩ := h.not_mem hu he
  have hentry : s.manager.entries.get? t = some id := Assoc.get?_eq_some_iff.2 hmem
  obtain ⟨stage, -, -, hjudged⟩ := h.reader
  obtain ⟨p, hp⟩ := hu.mapped.exists_pool hentry
  have hpool : s'.manager.pools[id]? = some p := by
    have hpools : (s'.manager.closeHeld stage).pools[id]? = some p := by
      rw [hjudged]
      refine (Manager.getElem?_pools_judged _ _ _ _).trans ?_
      rw [hp, Option.map_some, if_neg hid]
    exact hpools
  have hconnections : s.manager.connectionsOf id = some p.connections := by
    rw [Manager.connectionsOf, hp]
    rfl
  have hnoted : ∀ e ∈ noted, e ∈ s.manager.entries.toList :=
    fun e hin => h.pools.mem_iff.1 (List.mem_append_left _ hin)
  obtain ⟨c, hc, hopen⟩ : ∃ c, (s.manager.judged s.failure? noted).ledger.all[p.connections]? =
      some c ∧ c.closed = false := by
    have hclosed := hu.isClosed_judged (v := s.failure?) hnoted ht hentry hconnections
    rw [Ledger.isClosed] at hclosed
    cases hall : (s.manager.judged s.failure? noted).ledger.all[p.connections]? with
    | none => simp [hall] at hclosed
    | some c => exact ⟨c, rfl, by simpa [hall] using hclosed⟩
  have hcloseHeld : (s'.manager.closeHeld stage).ledger.all[p.connections]? = some c := by
    rw [hjudged]
    exact hc
  have hledger : s'.manager.ledger.all[p.connections]? = some c := by
    change ((stage.connections? s'.manager.connectionsOf).elim s'.manager.ledger
      s'.manager.ledger.close).all[p.connections]? = some c at hcloseHeld
    cases hheld : stage.connections? s'.manager.connectionsOf with
    | none => simpa [hheld] using hcloseHeld
    | some i => exact Ledger.getElem?_of_close (by simpa [hheld] using hcloseHeld) hopen
  have hbehavior : s'.backend.behavior c.database = s.behaviorOf id := by
    rw [h.backend, behaviorOf, hconnections, Option.bind_some, Manager.getElem?_of_judged hc hopen]
    rfl
  refine ⟨p, hpool, ?_⟩
  simp only [Simulation.pingFor, hidle, hledger, Backend.ping?, hopen, Bool.false_eq_true, if_false,
    hbehavior]
  cases s.behaviorOf id with
  | healthy => rfl
  | failing => exact ⟨_, rfl⟩
  | hanging => rfl

/-- A task that has not begun to ping does so. -/
lemma turn_queued (h : Checking s k noted s') (hc : s.Childless k)
    (hj : s'.manager.tasks.get? j = some (.probeQueued k t id))
    (hidle : s'.pending.get? j = none) (hnow : s'.now = s.now) :
    Checking s k noted (s'.turn j 1).1 ∧ (s'.turn j 1).1.work k s.now < s'.work k s.now := by
  have hmanager : (s'.step (.resume j .proceed)).manager =
      s'.manager.await j (.probePinging k t id (s.now + pingTimeout.nanos)) := by
    rw [manager_step, Manager.step_resume hj, ← hnow]
    rfl
  have hget : (s'.step (.resume j .proceed)).manager.tasks.get? j =
      some (.probePinging k t id (s.now + pingTimeout.nanos)) := by
    rw [hmanager]
    exact Manager.get?_await _ _ _
  have htasks : ∀ i ≠ j, (s'.step (.resume j .proceed)).manager.tasks.get? i =
      s'.manager.tasks.get? i := by
    intro i hi
    rw [hmanager]
    exact (Assoc.get?_insert _ _ _ _).trans (if_neg hi)
  have hnow' : (s'.step (.resume j .proceed)).now = s.now := by
    rw [now, hmanager]
    exact hnow
  have hless : (s'.step (.resume j .proceed)).effort k j
        (.probePinging k t id (s.now + pingTimeout.nanos)) <
      s'.effort k j (.probeQueued k t id) := by
    have hidle' : (s'.step (.resume j .proceed)).pending.get? j = none := hidle
    simp [effort, Stage.parent?, hidle']
  rw [turn_of_answer hj rfl]
  exact h.of_await hc hj hget (by rw [hmanager]; rfl) htasks (fun _ _ => rfl) h.backend rfl rfl rfl
    rfl (.asking hidle hnow') hless

/-- A task that pings gets an answer at once, or waits for one. -/
lemma turn_asking (h : Checking s k noted s') (hs : s.Sound) (hc : s.Childless k)
    (hj : s'.manager.tasks.get? j = some (.probePinging k t id (s.now + pingTimeout.nanos)))
    (hidle : s'.pending.get? j = none) (hnow : s'.now = s.now) :
    Checking s k noted (s'.turn j 1).1 ∧ (s'.turn j 1).1.work k s.now < s'.work k s.now := by
  have hmem : (t, id) ∈ s'.manager.probing k := Progress.mem_probing hj (if_pos rfl)
  obtain ⟨p, hp, hping⟩ := h.pingFor (j := j) hs.inUse (List.mem_append_right _ hmem) hidle
  obtain ⟨u, hu⟩ : ∃ u, u = { s' with backend.pings := s'.backend.pings + 1 } := ⟨_, rfl⟩
  rw [← hu] at hping
  have hbackend : u.backend = { s.backend with pings := u.backend.pings } := by
    rw [hu]
    exact congrArg (fun b : Backend => { b with pings := s'.backend.pings + 1 }) h.backend
  have hask : s'.answer j (.probePinging k t id (s.now + pingTimeout.nanos)) =
      orElapsed (s.now + pingTimeout.nanos) j (s'.pingFor j p.connections) := by
    rw [answer, hp]
    rfl
  have heffort : s'.effort k j (.probePinging k t id (s.now + pingTimeout.nanos)) = 4 := by
    simp [effort, Stage.parent?, hidle]
  have hmanager (result : Except PingFault Unit) :
      (u.step (.resume j (.pinged result))).manager =
        s'.manager.report j k (.probed t id result) := by
    rw [hu, manager_step]
    exact Manager.step_resume hj _
  have hnow' (result : Except PingFault Unit) :
      (u.step (.resume j (.pinged result))).now = s.now := by
    rw [now, hmanager]
    exact hnow
  have hreports {result : Except PingFault Unit}
      (hresult : s'.pingFor j p.connections = (u, some (.pinged result)))
      (htells : Tells s (u.step (.resume j (.pinged result))) (.probed t id result)) :
      Checking s k noted (s'.turn j 1).1 ∧ (s'.turn j 1).1.work k s.now < s'.work k s.now := by
    rw [hresult] at hask
    rw [turn_of_answer hj hask]
    exact h.of_report hc hj (hmanager result) (fun _ _ => by rw [hu]; rfl) hbackend rfl rfl htells
      (by omega)
  cases hb : s.behaviorOf id with
  | healthy =>
    rw [hb] at hping
    exact hreports hping (.ok (by simp only [failure?, hb]))
  | failing =>
    rw [hb] at hping
    obtain ⟨fault, hping⟩ := hping
    exact hreports hping (.error (by simp only [failure?, hb, hnow']))
  | hanging =>
    rw [hb] at hping
    obtain ⟨w, hw⟩ : ∃ w, w = u.wait j none := ⟨_, rfl⟩
    have hwaits : w.pending.get? j = some none := by
      rw [hw]
      exact (Assoc.get?_insert _ _ _ _).trans (if_pos rfl)
    have hmanager : w.manager = s'.manager := by rw [hw, hu]; rfl
    have hpending : ∀ i ≠ j, w.pending.get? i = s'.pending.get? i := by
      intro i hi
      rw [hw, hu]
      exact (Assoc.get?_insert _ _ _ _).trans (if_neg hi)
    have hearly : ¬tick (s.now + pingTimeout.nanos) ≤ w.now := by
      have hwnow : w.now = s.now := by rw [now, hmanager]; exact hnow
      have hpositive : 0 < pingTimeout.nanos := by decide
      have htick := le_tick (s.now + pingTimeout.nanos)
      omega
    have hless : w.effort k j (.probePinging k t id (s.now + pingTimeout.nanos)) <
        s'.effort k j (.probePinging k t id (s.now + pingTimeout.nanos)) := by
      rw [heffort]
      simp [effort, Stage.parent?, hwaits]
    rw [hping, ← hw, orElapsed_none, if_neg hearly] at hask
    rw [turn_of_silence hj hask]
    exact h.of_await hc hj (hmanager ▸ hj) (by rw [hmanager]) (fun _ _ => by rw [hmanager])
      hpending (by rw [hw]; exact hbackend) rfl rfl rfl rfl (.waiting hwaits hb) hless

/-- A task that waits for an answer goes on when that has taken too long. -/
lemma turn_waiting (h : Checking s k noted s') (hc : s.Childless k)
    (hj : s'.manager.tasks.get? j = some (.probePinging k t id (s.now + pingTimeout.nanos)))
    (hwaits : s'.pending.get? j = some none) (hhangs : s.behaviorOf id = .hanging) :
    (s'.turn j 1).1 = s' ∧ s'.now = s.now ∨
    Checking s k noted (s'.turn j 1).1 ∧ (s'.turn j 1).1.work k s.now < s'.work k s.now := by
  have hask : s'.answer j (.probePinging k t id (s.now + pingTimeout.nanos)) =
      orElapsed (s.now + pingTimeout.nanos) j (s', none) := by
    have hping (p : Pool) : s'.pingFor j p.connections = (s', none) := by
      rw [Simulation.pingFor, hwaits]
    rw [answer]
    cases s'.manager.pools[id]? with
    | none => rfl
    | some p => rw [Option.elim_some, hping]
  have htick := le_tick (s.now + pingTimeout.nanos)
  rw [orElapsed_none] at hask
  rcases h.clock with hnow | ⟨hnow, -⟩
  · have hpositive : 0 < pingTimeout.nanos := by decide
    rw [if_neg (by omega)] at hask
    exact .inl ⟨turn_of_silence hj hask, hnow⟩
  · rw [if_pos hnow.ge] at hask
    have hover : s.now + pingTimeout.nanos ≤ s'.manager.now := htick.trans hnow.ge
    have hmanager : ((s'.hangUp j).step (.resume j .elapsed)).manager =
        s'.manager.report j k (.probed t id (.error (.timeout pingTimeout))) := by
      rw [manager_step]
      exact (Manager.step_resume hj _).trans (if_pos hover)
    have hnow' : ((s'.hangUp j).step (.resume j .elapsed)).now =
        tick (s.now + pingTimeout.nanos) := by
      rw [now, hmanager]
      exact hnow
    have hpending : ∀ i ≠ j, ((s'.hangUp j).step (.resume j .elapsed)).pending.get? i =
        s'.pending.get? i :=
      fun i hi => (Assoc.get?_erase _ _ _).trans (if_neg hi)
    rw [turn_of_answer hj hask]
    refine .inr (h.of_report hc hj hmanager hpending h.backend rfl rfl (.error ?_) ?_)
    · simp only [failure?, hhangs, hnow']
    · simp [effort, Stage.parent?, hwaits]

/-- A task that pings goes on, or it waits for an answer, while the clock stands where it stood when
the check began. -/
lemma turn_child (h : Checking s k noted s') (hs : s.Sound) (hc : s.Childless k)
    (hj : s'.manager.tasks.get? j = some stage) (hparent : stage.parent? = some k) :
    ((s'.turn j 1).1 = s' ∧ s'.now = s.now ∧ s'.pending.get? j = some none ∧
      ∃ t id, stage = .probePinging k t id (s.now + pingTimeout.nanos) ∧
        (t, id) ∈ s.manager.entries.toList ∧ s.behaviorOf id = .hanging) ∨
    Checking s k noted (s'.turn j 1).1 ∧ (s'.turn j 1).1.work k s.now < s'.work k s.now := by
  cases h.probe j stage hj hparent with
  | queued hidle hnow => exact .inr (h.turn_queued hc hj hidle hnow)
  | asking hidle hnow => exact .inr (h.turn_asking hs hc hj hidle hnow)
  | @waiting t id hwaits hhangs =>
    have hmem : (t, id) ∈ s'.manager.probing k := Progress.mem_probing hj (if_pos rfl)
    refine (h.turn_waiting hc hj hwaits hhangs).imp_left fun ⟨hrests, hnow⟩ => ?_
    exact ⟨hrests, hnow, hwaits, t, id, rfl,
      (h.not_mem hs.inUse (List.mem_append_right _ hmem)).1, hhangs⟩

end Checking

end Simulation

end Tenancy
