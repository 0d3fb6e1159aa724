import Tenancy.Proofs.Manager.Loops
import Tenancy.Proofs.Simulation.Probing

/-!
# How a check of all pools goes on

A check that nobody else disturbs reads of every pool in use, once, and ends. From its beginning on,
`Sound.checking_or_checked`, whatever happens next leads from one state in which it is `Checking` to
another, or to its end, `Checking.next`, and something happens until then, `Checking.exists_next`.
So every run ends where it is `Checked`: `ends_checked`.
-/

namespace Tenancy

open Manager (TaskId PoolId Stage Answer Request Outcome Event Report Diagnosis Judged HealthSweep
  pingTimeout)

variable {k j : TaskId} {t : TenantId} {id : PoolId} {stage : Stage}

namespace Manager

variable {m : Manager}

/-! ### Tasks that expect no reports -/

lemma reported_eq_nil (h : m.expectsReports k = false) : m.reported k = [] := by
  rw [reported, List.filter_eq_nil_iff.2, List.filterMap_nil]
  rintro ⟨k', r⟩ hr hk'
  cases of_decide_eq_true hk'
  exact not_mem_reports h r hr

lemma probing_eq_nil (h : m.expectsReports k = false) : m.probing k = [] := by
  rw [probing, Assoc.collect, List.filterMap_eq_nil_iff]
  exact fun e he => if_neg (parent?_ne h (Assoc.get?_eq_some_iff.2 he))

end Manager

namespace Simulation

variable {s s' s'' : Simulation} {noted noted' : List (TenantId × PoolId)}

/-! ### The check itself -/

/-- The answer that a report tells, and when it can have come. -/
structure Answers (s s' : Simulation) (id : PoolId) (result : Except PingFault Unit) : Prop where
  result : match result with
    | .ok _ => s.failure? id = none
    | .error _ => s.failure? id = some s'.manager.now
  late : ∀ time ∈ s.failure? id, time ≤ s'.now

lemma Tells.exists_result {r : Report} (h : Tells s s' r) :
    ∃ t id result, r = .probed t id result ∧ Answers s s' id result := by
  cases h with
  | @ok t id hv => exact ⟨t, id, .ok (), rfl, hv, by rw [hv]; exact nofun⟩
  | @error t id fault hv =>
    refine ⟨t, id, .error fault, rfl, hv, fun time htime => ?_⟩
    rw [hv] at htime
    cases htime
    exact le_rfl

/-- Only the task `k` has gone on, which no other one has started, or it has ended. -/
structure Moves (k : TaskId) (s' s'' : Simulation) : Prop where
  before : ∀ stage ∈ s'.manager.tasks.get? k, stage.parent? = none
  after : ∀ stage ∈ s''.manager.tasks.get? k, stage.parent? = none
  tasks : ∀ i ≠ k, s''.manager.tasks.get? i = s'.manager.tasks.get? i
  pending : s''.pending = s'.pending
  now : s''.now = s'.now
  backend : s''.backend = s'.backend

namespace Moves

lemma of_insert (htasks : s''.manager.tasks = s'.manager.tasks.insert k stage)
    (hparent : stage.parent? = none)
    (hbefore : ∀ stage ∈ s'.manager.tasks.get? k, stage.parent? = none)
    (hpending : s''.pending = s'.pending) (hnow : s''.now = s'.now)
    (hbackend : s''.backend = s'.backend) : Moves k s' s'' := by
  refine ⟨hbefore, fun x hx => ?_, fun i hi => ?_, hpending, hnow, hbackend⟩
  · rw [htasks, Assoc.get?_insert, if_pos rfl] at hx
    cases hx
    exact hparent
  · rw [htasks, Assoc.get?_insert, if_neg hi]

lemma of_erase (htasks : s''.manager.tasks = s'.manager.tasks.erase k)
    (hbefore : ∀ stage ∈ s'.manager.tasks.get? k, stage.parent? = none)
    (hpending : s''.pending = s'.pending) (hnow : s''.now = s'.now)
    (hbackend : s''.backend = s'.backend) : Moves k s' s'' := by
  refine ⟨hbefore, fun x hx => ?_, fun i hi => ?_, hpending, hnow, hbackend⟩
  · rw [htasks, Assoc.get?_erase, if_pos rfl] at hx
    cases hx
  · rw [htasks, Assoc.get?_erase, if_neg hi]

lemma of_tasks (htasks : s''.manager.tasks = s'.manager.tasks)
    (hbefore : ∀ stage ∈ s'.manager.tasks.get? k, stage.parent? = none)
    (hpending : s''.pending = s'.pending) (hnow : s''.now = s'.now)
    (hbackend : s''.backend = s'.backend) : Moves k s' s'' :=
  ⟨hbefore, htasks ▸ hbefore, fun _ _ => by rw [htasks], hpending, hnow, hbackend⟩

/-- What reports are to come does not change. -/
lemma expectsReports (h : Moves k s' s'') (hreports : s''.manager.reports = s'.manager.reports)
    (hleft : s'.manager.expectsReports k = true) : s''.manager.expectsReports k = true := by
  rw [Manager.expectsReports_iff, hreports]
  refine (Manager.expectsReports_iff.1 hleft).imp_left fun ⟨i, x, hi, hx⟩ => ⟨i, x, ?_, hx⟩
  have hne : i ≠ k := by
    rintro rfl
    rw [h.before x hi] at hx
    cases hx
  exact (h.tasks i hne).trans hi

/-- The work that is left changes only with the reports that are there, and when the check begins
or ends to close a pool. -/
lemma work (h : Moves k s' s'') (start : Nat) :
    s''.work k start + 2 * (s'.manager.reported k).length +
        (s'.manager.tasks.get? k).elim 0 (fun stage => stage.isClosing.toNat) =
      s'.work k start + 2 * (s''.manager.reported k).length +
        (s''.manager.tasks.get? k).elim 0 (fun stage => stage.isClosing.toNat) := by
  have heffort {x : Simulation}
      (hx : ∀ stage ∈ x.manager.tasks.get? k, stage.parent? = none) :
      (x.manager.tasks.get? k).elim 0 (x.effort k k) = 0 := by
    cases hk : x.manager.tasks.get? k with
    | none => rfl
    | some stage => simp [effort, hx stage hk]
  have hsum := sum_effort (k := k) h.tasks fun i _ => by rw [h.pending]
  rw [heffort h.before, heffort h.after] at hsum
  rw [Simulation.work, Simulation.work, h.now]
  omega

end Moves

lemma reported_congr (h : s''.manager.reports = s'.manager.reports) :
    s''.manager.reported k = s'.manager.reported k := by
  rw [Manager.reported, h, Manager.reported]

lemma Moves.work_of_reports_eq (h : Moves k s' s'')
    (hreports : s''.manager.reports = s'.manager.reports) (start : Nat) :
    s''.work k start + (s'.manager.tasks.get? k).elim 0 (fun stage => stage.isClosing.toNat) =
      s'.work k start + (s''.manager.tasks.get? k).elim 0 fun stage => stage.isClosing.toNat := by
  have hwork := h.work start
  rw [reported_congr hreports] at hwork
  omega

namespace Progress

/-- The check itself goes on. -/
lemma of_moves (h : Progress s k noted s') (hm : Moves k s' s'')
    (hpools : (noted' ++ s''.manager.reported k).Perm (noted ++ s'.manager.reported k))
    (hreport : ∀ r, (k, r) ∈ s''.manager.reports → (k, r) ∈ s'.manager.reports)
    (hothers : s''.manager.reports.filter (·.1 ≠ k) = s'.manager.reports.filter (·.1 ≠ k))
    (hnoted : ∀ e ∈ noted', e ∈ noted ∨ ∀ time ∈ s.failure? e.2, time ≤ s''.now) :
    Progress s k noted' s'' := by
  have hcontributes {x : Simulation}
      (hx : ∀ stage ∈ x.manager.tasks.get? k, stage.parent? = none) :
      (x.manager.tasks.get? k).bind (Stage.probeFor? k) = none := by
    cases hk : x.manager.tasks.get? k with
    | none => rfl
    | some stage =>
      rw [Option.bind_some, Stage.probeFor?, hx stage hk, if_neg (Option.some_ne_none k).symm]
  refine h.update le_rfl hm.tasks (fun i _ => by rw [hm.pending]) (hm.pending ▸ h.idle) hm.now ?_
    ?_ (fun x hx hp => ?_) (fun _ hlt => absurd hlt (lt_irrefl _))
    (fun r hr => .inl (hreport r hr)) hothers hnoted
  · rw [hm.backend]
    exact h.backend
  · rw [hcontributes hm.before, hcontributes hm.after, Option.toList_none, List.append_nil,
      List.append_nil]
    exact hpools
  · rw [hm.after x hx] at hp
    cases hp

/-- The check itself goes on without reading a report. -/
lemma of_reports_eq (h : Progress s k noted s') (hm : Moves k s' s'')
    (hreports : s''.manager.reports = s'.manager.reports) : Progress s k noted s'' := by
  refine h.of_moves hm ?_ (fun r hr => hreports ▸ hr) (by rw [hreports]) fun e he => .inl he
  rw [reported_congr hreports]

/-- The check goes on to wait for reports, or ends when there are none to come. -/
lemma awaitProbes (h : Progress s k noted s')
    (hjudged : Judged s.manager s.failure? noted s'.manager)
    (hbefore : ∀ stage ∈ s'.manager.tasks.get? k, stage.parent? = none)
    (hmanager : s''.manager =
      s'.manager.awaitProbes k .caller (s.manager.tally s.failure? noted))
    (hpending : s''.pending = s'.pending) (hbackend : s''.backend = s'.backend) :
    (Checking s k noted s'' ∨ Checked s k noted s'') ∧
      s''.work k s.now + (s'.manager.tasks.get? k).elim 0 (fun stage => stage.isClosing.toNat) =
        s'.work k s.now := by
  have hcases : s'.manager.expectsReports k = true ∧ s''.manager =
        s'.manager.await k (.probing .caller (s.manager.tally s.failure? noted)) ∨
      s'.manager.expectsReports k = false ∧ s''.manager =
        s'.manager.finish k (.swept (s.manager.tally s.failure? noted)) := by
    rw [hmanager, Manager.awaitProbes]
    cases s'.manager.expectsReports k with
    | true => exact .inl ⟨rfl, rfl⟩
    | false => exact .inr ⟨rfl, rfl⟩
  have hmoves : Moves k s' s'' := by
    rcases hcases with ⟨-, hm⟩ | ⟨-, hm⟩
    · exact .of_insert (by rw [hm]; rfl) rfl hbefore hpending (by rw [now, hm]; rfl) hbackend
    · exact .of_erase (by rw [hm]; rfl) hbefore hpending (by rw [now, hm]; rfl) hbackend
  have hreports : s''.manager.reports = s'.manager.reports := by
    rcases hcases with ⟨-, hm⟩ | ⟨-, hm⟩ <;> rw [hm] <;> rfl
  have hclosing : (s''.manager.tasks.get? k).elim 0 (fun stage => stage.isClosing.toNat) = 0 := by
    rcases hcases with ⟨-, hm⟩ | ⟨-, hm⟩
    · rw [hm, Manager.get?_await]
      rfl
    · rw [hm, Manager.finish, Manager.leave, Assoc.get?_erase, if_pos rfl]
      rfl
  have hprogress := h.of_reports_eq hmoves hreports
  constructor
  · rcases hcases with ⟨hleft, hm⟩ | ⟨hnone, hm⟩
    · refine .inl ⟨hprogress, _, ?_, .probing (hmoves.expectsReports hreports hleft), ?_⟩
      · rw [hm]
        exact Manager.get?_await _ _ _
      · rw [hm]
        exact hjudged.reframe _ _ _ _
    · refine .inr ⟨hprogress, ?_, ?_, ?_⟩
      · rw [hm]
        exact (Assoc.get?_erase _ _ _).trans (if_pos rfl)
      · rw [← Bool.not_eq_true, hm]
        intro hleft
        exact Bool.false_ne_true (hnone.symm.trans (Manager.expectsReports_of_finish hleft))
      · have houtcomes : s'.manager.outcomes = s.manager.outcomes := by
          rw [hjudged, Manager.judged, Manager.discards_eq]
          rfl
        rw [now, hm, Manager.finish, houtcomes]
        conv_lhs => rw [hjudged]
        rfl
  · have hwork := hmoves.work_of_reports_eq hreports s.now
    rwa [hclosing] at hwork

/-- The check reads a report, and notes the answer in the pool. -/
lemma read {result : Except PingFault Unit} (h : Progress s k noted s')
    (hbefore : ∀ stage ∈ s'.manager.tasks.get? k, stage.parent? = none)
    (hr : s'.manager.nextReport? k = some (.probed t id result))
    (hlate : ∀ time ∈ s.failure? id, time ≤ s'.now) {f : Pool → Pool} :
    Progress s k (noted ++ [(t, id)])
        { s' with manager := (s'.manager.dropReport k).modifyPool id f } ∧
      { s' with manager := (s'.manager.dropReport k).modifyPool id f }.work k s.now + 2 =
        s'.work k s.now := by
  have hreported : s'.manager.reported k = (t, id) :: (s'.manager.dropReport k).reported k :=
    Manager.reported_dropReport hr
  have hmoves : Moves k s' { s' with manager := (s'.manager.dropReport k).modifyPool id f } :=
    .of_tasks rfl hbefore rfl rfl rfl
  constructor
  · refine h.of_moves hmoves ?_ ?_ ?_ ?_
    · rw [hreported, List.append_assoc]
      exact .refl _
    · exact fun _ hin => List.mem_of_mem_eraseP hin
    · simp only [ne_eq, decide_not]
      exact Manager.filter_not_eraseP (fun r => decide (r.1 = k)) s'.manager.reports
    · intro e he
      rcases List.mem_append.1 he with hold | hnew
      · exact .inl hold
      · cases List.mem_singleton.1 hnew
        exact .inr hlate
  · have hwork := hmoves.work s.now
    rw [hreported, List.length_cons] at hwork
    change _ = _ + 2 * ((s'.manager.dropReport k).reported k).length +
      (s'.manager.tasks.get? k).elim 0 _ at hwork
    omega

/-- The check goes on to close a pool. -/
lemma beginClose {sweep : HealthSweep} (h : Progress s k noted s')
    (hjudged : Judged s.manager s.failure? noted
      (s'.manager.discard (t, id, "health check failed")))
    (hbefore : ∀ stage ∈ s'.manager.tasks.get? k, stage.parent? = none)
    (hsweep : { sweep with closed := sweep.closed + 1 } = s.manager.tally s.failure? noted)
    (hmanager : s''.manager =
      s'.manager.beginClose k t id "health check failed" (.probe .caller sweep))
    (hpending : s''.pending = s'.pending) (hbackend : s''.backend = s'.backend) :
    Checking s k noted s'' ∧
      s''.work k s.now + (s'.manager.tasks.get? k).elim 0 (fun stage => stage.isClosing.toNat) =
        s'.work k s.now + 1 := by
  have hk : s''.manager.tasks.get? k =
      some (.closing t id "health check failed" (.probe .caller sweep)) := by
    rw [hmanager]
    exact Manager.get?_await _ _ _
  have hmoves : Moves k s' s'' :=
    .of_insert (by rw [hmanager]; rfl) rfl hbefore hpending (by rw [now, hmanager]; rfl) hbackend
  have hreports : s''.manager.reports = s'.manager.reports := by
    rw [hmanager]
    rfl
  constructor
  · refine ⟨h.of_reports_eq hmoves hreports, _, hk, .closing hsweep, ?_⟩
    rw [hmanager, Manager.closeHeld_beginClose]
    exact hjudged.reframe _ _ _ _
  · have hwork := hmoves.work_of_reports_eq hreports s.now
    rw [hk] at hwork
    exact hwork

end Progress

namespace Checking

/-- A check that has closed a pool goes on. -/
lemma turn_closing {reason : String} {sweep : HealthSweep} (h : Checking s k noted s')
    (hclose : s.backend.closeDelay.nanos = 0)
    (hk : s'.manager.tasks.get? k = some (.closing t id reason (.probe .caller sweep)))
    (hsweep : { sweep with closed := sweep.closed + 1 } = s.manager.tally s.failure? noted)
    (hjudged : Judged s.manager s.failure? noted
      (s'.manager.closeHeld (.closing t id reason (.probe .caller sweep)))) :
    (Checking s k noted (s'.turn k 1).1 ∨ Checked s k noted (s'.turn k 1).1) ∧
      (s'.turn k 1).1.work k s.now < s'.work k s.now := by
  have hatOnce : s'.answer k (.closing t id reason (.probe .caller sweep)) =
      (s', some .closed) := by
    have hdelay : s'.backend.closeDelay.isZero = true := by
      rw [h.backend]
      exact decide_eq_true hclose
    simp [answer, after, h.idle, hdelay]
  obtain ⟨u, hu⟩ : ∃ u, u = { s' with
      manager := s'.manager.closeHeld (.closing t id reason (.probe .caller sweep)) } := ⟨_, rfl⟩
  have hku : u.manager.tasks.get? k = some (.closing t id reason (.probe .caller sweep)) := by
    rw [hu]
    exact hk
  have hbefore : ∀ stage ∈ s'.manager.tasks.get? k, stage.parent? = none := by
    rw [hk]
    rintro _ ⟨⟩
    rfl
  have hprogress : Progress s k noted u := by
    subst hu
    exact h.of_reports_eq (.of_tasks rfl hbefore rfl rfl rfl) rfl
  have hmanager : (s'.step (.resume k .closed)).manager =
      u.manager.awaitProbes k .caller (s.manager.tally s.failure? noted) := by
    rw [manager_step, Manager.step_resume hk, hu, ← hsweep]
    exact Manager.afterClosing_eq s'.manager k t id reason (.probe .caller sweep)
  obtain ⟨hnext, hwork⟩ := hprogress.awaitProbes (by rw [hu]; exact hjudged)
    (by rw [hu]; exact hbefore) hmanager (by rw [hu]; rfl) (by rw [hu]; rfl)
  have hsame : u.work k s.now = s'.work k s.now := by
    rw [hu]
    rfl
  rw [turn_of_answer hk hatOnce]
  refine ⟨hnext, ?_⟩
  rw [hku] at hwork
  change _ + 1 = _ at hwork
  omega

/-- A check that waits for reports reads the first one, if there is one. -/
lemma turn_probing {r : Report} (h : Checking s k noted s') (hu : s.manager.InUse)
    (hk : s'.manager.tasks.get? k =
      some (.probing .caller (s.manager.tally s.failure? noted)))
    (hjudged : Judged s.manager s.failure? noted s'.manager)
    (hr : s'.manager.nextReport? k = some r) :
    ∃ noted', (Checking s k noted' (s'.turn k 1).1 ∨ Checked s k noted' (s'.turn k 1).1) ∧
      (s'.turn k 1).1.work k s.now < s'.work k s.now := by
  obtain ⟨t, id, result, rfl, hresult⟩ :=
    (h.report r (Manager.mem_of_nextReport? hr)).exists_result
  have hbefore : ∀ stage ∈ s'.manager.tasks.get? k, stage.parent? = none := by
    rw [hk]
    rintro _ ⟨⟩
    rfl
  obtain ⟨hmem, ht, hid⟩ := h.not_mem hu (List.mem_append_left _ (Manager.mem_reported hr))
  obtain ⟨u, hu'⟩ : ∃ u, u = { s' with
      manager := (s'.manager.dropReport k).modifyPool id (·.diagnosed (s.failure? id)) } :=
    ⟨_, rfl⟩
  obtain ⟨hprogress, hworku⟩ : Progress s k (noted ++ [(t, id)]) u ∧
      u.work k s.now + 2 = s'.work k s.now := hu' ▸ h.read hbefore hr hresult.late
  have hku : u.manager.tasks.get? k =
      some (.probing .caller (s.manager.tally s.failure? noted)) := by
    rw [hu']
    exact hk
  have hproceed : s'.answer k (.probing .caller (s.manager.tally s.failure? noted)) =
      (s', some .proceed) := by
    rw [answer, hr]
    rfl
  have hdropped : Judged s.manager s.failure? noted (s'.manager.dropReport k) :=
    hjudged.reframe _ _ _ _
  have hnote : (s'.step (.resume k .proceed)).manager =
      (s'.manager.dropReport k).noteProbe k .caller (s.manager.tally s.failure? noted) t id
        result := by
    rw [manager_step, Manager.step_resume hk]
    simp only [Manager.answer, Manager.absorbProbe, hr]
  rw [hdropped.noteProbe hresult.result ht hid (Assoc.get?_eq_some_iff.2 hmem)] at hnote
  rw [turn_of_answer hk hproceed]
  refine ⟨noted ++ [(t, id)], ?_⟩
  cases hdooms : s.manager.dooms s.failure? id with
  | false =>
    have hmanager : (s'.step (.resume k .proceed)).manager =
        u.manager.awaitProbes k .caller (s.manager.tally s.failure? (noted ++ [(t, id)])) := by
      rw [hnote, hdooms, if_neg Bool.false_ne_true, hu']
    obtain ⟨hnext, hwork⟩ := hprogress.awaitProbes (by rw [hu']; exact hdropped.note hdooms)
      (by rw [hu']; exact hbefore) hmanager (by rw [hu']; rfl) (by rw [hu']; rfl)
    refine ⟨hnext, ?_⟩
    omega
  | true =>
    obtain ⟨sweep, hsweep⟩ : ∃ sweep : HealthSweep,
        sweep = { s.manager.tally s.failure? (noted ++ [(t, id)]) with
          closed := (s.manager.tally s.failure? noted).closed } := ⟨_, rfl⟩
    have hcounted : { sweep with closed := sweep.closed + 1 } =
        s.manager.tally s.failure? (noted ++ [(t, id)]) := by
      rw [hsweep, Manager.tally_concat, hdooms]
      rfl
    have hmanager : (s'.step (.resume k .proceed)).manager =
        u.manager.beginClose k t id "health check failed" (.probe .caller sweep) := by
      rw [hnote, hdooms, if_pos rfl, hu', hsweep]
    obtain ⟨hnext, hwork⟩ := hprogress.beginClose (by rw [hu']; exact hdropped.discard hdooms)
      (by rw [hu']; exact hbefore) hcounted hmanager (by rw [hu']; rfl) (by rw [hu']; rfl)
    refine ⟨.inl hnext, ?_⟩
    rw [hku] at hwork
    change _ + 0 = _ at hwork
    omega

/-- The check itself goes on, or it waits for a report that is to come. -/
lemma turn_reader (h : Checking s k noted s') (hs : s.Sound)
    (hclose : s.backend.closeDelay.nanos = 0) :
    ((s'.turn k 1).1 = s' ∧ (∀ r, (k, r) ∉ s'.manager.reports) ∧
      (∃ j stage, s'.manager.tasks.get? j = some stage ∧ stage.parent? = some k) ∧
      ∀ stage, s'.manager.tasks.get? k = some stage → s'.alarm? k stage = none) ∨
    ∃ noted', (Checking s k noted' (s'.turn k 1).1 ∨ Checked s k noted' (s'.turn k 1).1) ∧
      (s'.turn k 1).1.work k s.now < s'.work k s.now := by
  obtain ⟨stage, hk, hreads, hjudged⟩ := h.reader
  cases hreads with
  | closing hsweep => exact .inr ⟨noted, h.turn_closing hclose hk hsweep hjudged⟩
  | probing hleft =>
    cases hr : s'.manager.nextReport? k with
    | some r => exact .inr (h.turn_probing hs.inUse hk hjudged hr)
    | none =>
      have hnone : ∀ r, (k, r) ∉ s'.manager.reports := Manager.nextReport?_eq_none_iff.1 hr
      refine .inl ⟨turn_of_silence hk ?_, hnone, ?_, ?_⟩
      · rw [answer, hr]
        rfl
      · exact (Manager.expectsReports_iff.1 hleft).resolve_right (not_exists.2 hnone)
      · intro stage' hk'
        rw [hk] at hk'
        cases hk'
        simp [alarm?, h.idle]

end Checking

lemma IsNextAlarm.unique {time other : Nat} (h : s.IsNextAlarm k time)
    (ho : s.IsNextAlarm k other) : time = other := by
  obtain ⟨i, stage, hi, hstage, halarm⟩ := h.waited
  obtain ⟨j, stage', hj, hstage', halarm'⟩ := ho.waited
  exact le_antisymm (h.least j stage' other hj hstage' halarm' ho.later)
    (ho.least i stage time hi hstage halarm h.later)

/-- The clock jumps when all tasks that ping wait for an answer, and no report is there. -/
lemma Progress.advanceTo {time : Nat} (h : Progress s k noted s') (hnow : s'.now = s.now)
    (htime : time = tick (s.now + pingTimeout.nanos)) (hnone : ∀ r, (k, r) ∉ s'.manager.reports)
    (hwaiting : ∀ j stage, s'.manager.tasks.get? j = some stage → stage.parent? = some k →
      s'.pending.get? j = some none)
    (hhangs : ∃ e ∈ s.manager.entries.toList, s.behaviorOf e.2 = .hanging) :
    Progress s k noted (s'.advanceTo time) := by
  have hlater : s'.now ≤ time := by
    have htick := le_tick (s.now + pingTimeout.nanos)
    omega
  have hnow' : (s'.advanceTo time).now = time := now_advanceTo hlater
  refine ⟨h.pools, fun j stage hj hparent => ?_, fun r hr => absurd hr (hnone r),
    fun e he t ht => ?_, .inr ⟨hnow'.trans htime, hhangs⟩, h.older, h.newer, h.others, h.backend,
    h.idle⟩
  · have hwaits := hwaiting j stage hj hparent
    cases h.probe j stage hj hparent with
    | queued hidle => rw [hwaits] at hidle; cases hidle
    | asking hidle => rw [hwaits] at hidle; cases hidle
    | waiting hwaits hhangs => exact .waiting hwaits hhangs
  · rw [hnow']
    exact (h.past e he t ht).trans hlater

lemma work_advanceTo {time : Nat} (h : s'.now < time) :
    (s'.advanceTo time).work k s'.now + 1 = s'.work k s'.now := by
  have hnow : (s'.advanceTo time).now ≠ s'.now := by
    rw [now_advanceTo h.le]
    exact h.ne'
  rw [work, work, if_neg hnow, if_pos rfl]
  rfl

namespace Checking

/-- When no task can go on, all that ping wait for an answer until the check no longer does. -/
lemma waits (h : Checking s k noted s') (hs : s.Sound) (hc : s.Childless k)
    (hclose : s.backend.closeDelay.nanos = 0)
    (hrests : ∀ j, s'.IsOf k j → (s'.turn j 1).1 = s') :
    ∃ time, s'.IsNextAlarm k time ∧ Checking s k noted (s'.advanceTo time) ∧
      (s'.advanceTo time).work k s.now < s'.work k s.now := by
  obtain ⟨hnone, ⟨j, stage, hj, hparent⟩, hsilent⟩ : (∀ r, (k, r) ∉ s'.manager.reports) ∧
      (∃ j stage, s'.manager.tasks.get? j = some stage ∧ stage.parent? = some k) ∧
      ∀ stage, s'.manager.tasks.get? k = some stage → s'.alarm? k stage = none := by
    rcases h.turn_reader hs hclose with ⟨-, hrest⟩ | ⟨_, -, hless⟩
    · exact hrest
    · rw [hrests k (.inl rfl)] at hless
      exact absurd hless (lt_irrefl _)
  obtain ⟨time, htime⟩ : ∃ time, time = tick (s.now + pingTimeout.nanos) := ⟨_, rfl⟩
  have hwaiting {j : TaskId} {stage : Stage} (hj : s'.manager.tasks.get? j = some stage)
      (hparent : stage.parent? = some k) :
      s'.now = s.now ∧ s'.pending.get? j = some none ∧
        ∃ t id, stage = .probePinging k t id (s.now + pingTimeout.nanos) ∧
          (t, id) ∈ s.manager.entries.toList ∧ s.behaviorOf id = .hanging := by
    rcases h.turn_child hs hc hj hparent with ⟨-, hrest⟩ | ⟨-, hless⟩
    · exact hrest
    · rw [hrests j (.inr ⟨stage, hj, hparent⟩)] at hless
      exact absurd hless (lt_irrefl _)
  have halarm {j : TaskId} {stage : Stage} (hj : s'.manager.tasks.get? j = some stage)
      (hparent : stage.parent? = some k) : s'.alarm? j stage = some time := by
    obtain ⟨-, hwaits, t, id, rfl, -, -⟩ := hwaiting hj hparent
    simp only [alarm?, hwaits, Option.join_some, ← htime]
    rfl
  obtain ⟨hnow, -, t, id, -, hmem, hhangs⟩ := hwaiting hj hparent
  have hlater : s'.now < time := by
    have hpositive : 0 < pingTimeout.nanos := by decide
    have htick := le_tick (s.now + pingTimeout.nanos)
    omega
  refine ⟨time, ⟨hlater, ⟨j, stage, .inr ⟨stage, hj, hparent⟩, hj, halarm hj hparent⟩, ?_⟩, ?_, ?_⟩
  · rintro j stage other (rfl | ⟨stage', hstage', hparent'⟩) hstage hother -
    · rw [hsilent stage hstage] at hother
      cases hother
    · rw [hstage] at hstage'
      cases hstage'
      rw [halarm hstage hparent'] at hother
      cases hother
      exact le_rfl
  · have hprogress := h.advanceTo hnow htime hnone (fun _ _ hj hp => (hwaiting hj hp).2.1)
      ⟨(t, id), hmem, hhangs⟩
    obtain ⟨stage, hk, hreads, hjudged⟩ := h.reader
    refine ⟨hprogress, stage, hk, ?_, hjudged.reframe _ _ _ _⟩
    cases hreads with
    | probing hleft => exact .probing hleft
    | closing hsweep => exact .closing hsweep
  · have hwork := work_advanceTo (k := k) hlater
    rw [hnow] at hwork
    omega

/-- Whatever happens next, the check goes on, with less work left. -/
lemma next (h : Checking s k noted s') (hs : s.Sound) (hc : s.Childless k)
    (hclose : s.backend.closeDelay.nanos = 0) (hnext : Alone k s' s'') :
    ∃ noted', (Checking s k noted' s'' ∨ Checked s k noted' s'') ∧
      s''.work k s.now < s'.work k s.now := by
  cases hnext with
  | @turn j hj hmoves =>
    rcases hj with rfl | ⟨stage, hj, hparent⟩
    · rcases h.turn_reader hs hclose with ⟨hrests, -⟩ | hgoes
      · exact absurd hrests hmoves
      · exact hgoes
    · rcases h.turn_child hs hc hj hparent with ⟨hrests, -⟩ | ⟨hgoes, hless⟩
      · exact absurd hrests hmoves
      · exact ⟨noted, .inl hgoes, hless⟩
  | @wait time hrests htime =>
    obtain ⟨time', htime', hgoes, hless⟩ := h.waits hs hc hclose hrests
    cases htime.unique htime'
    exact ⟨noted, .inl hgoes, hless⟩

/-- As long as the check has not ended, something can happen. -/
lemma exists_next (h : Checking s k noted s') (hs : s.Sound) (hc : s.Childless k)
    (hclose : s.backend.closeDelay.nanos = 0) : ∃ s'', Alone k s' s'' := by
  by_cases hrests : ∀ j, s'.IsOf k j → (s'.turn j 1).1 = s'
  · obtain ⟨time, htime, -⟩ := h.waits hs hc hclose hrests
    exact ⟨_, .wait hrests htime⟩
  · push Not at hrests
    obtain ⟨j, hj, hmoves⟩ := hrests
    exact ⟨_, .turn hj hmoves⟩

end Checking

/-- When the check has ended, nothing more happens. -/
lemma Checked.not_alone (h : Checked s k noted s') : ¬Alone k s' s'' := by
  have hnone {j : TaskId} {stage : Stage} (hj : s'.IsOf k j) :
      s'.manager.tasks.get? j ≠ some stage := by
    intro hstage
    rcases hj with rfl | ⟨stage', hj, hparent⟩
    · rw [h.ended] at hstage
      cases hstage
    · exact Manager.parent?_ne h.none_left hj hparent
  intro hnext
  cases hnext with
  | @turn j hj hmoves =>
    cases hstage : s'.manager.tasks.get? j with
    | none => exact hmoves (turn_of_none hstage)
    | some stage => exact hnone hj hstage
  | wait _ htime =>
    obtain ⟨j, stage, hj, hstage, -⟩ := htime.waited
    exact hnone hj hstage

/-- A check that is under way comes to its end. -/
theorem ends_checked (hs : s.Sound) (hc : s.Childless k)
    (hclose : s.backend.closeDelay.nanos = 0)
    (h : Checking s k noted s' ∨ Checked s k noted s') :
    Ends k (fun s' => ∃ noted, Checked s k noted s') s' := by
  refine Ends.of_measure (I := fun s' => ∃ noted, Checking s k noted s' ∨ Checked s k noted s')
    (fun s' => s'.work k s.now) ?_ ?_ ⟨noted, h⟩
  · rintro s' s'' ⟨noted, h | h⟩ hnext
    · obtain ⟨noted', hgoes, hless⟩ := h.next hs hc hclose hnext
      exact ⟨⟨noted', hgoes⟩, hless⟩
    · exact absurd hnext h.not_alone
  · rintro s' ⟨noted, h | h⟩ hstop
    · exact absurd (h.exists_next hs hc hclose) hstop
    · exact ⟨noted, h⟩

/-! ### The beginning -/

/-- The tasks that a check starts. -/
def probes (s : Simulation) (k : TaskId) : List Stage :=
  s.manager.entries.toList.map fun e => .probeQueued k e.1 e.2

lemma filterMap_probes (s : Simulation) (k : TaskId) :
    (s.probes k).filterMap (Stage.probeFor? k) = s.manager.entries.toList := by
  have hself : Stage.probeFor? k ∘ (fun e : TenantId × PoolId => .probeQueued k e.1 e.2) = some :=
    funext fun e => if_pos rfl
  rw [probes, List.filterMap_map, hself, List.filterMap_some]

/-- When the tasks have started, all pools are still to be pinged. -/
lemma Sound.progress_of_spawned {m' : Manager} (hs : s.Sound)
    (h : Manager.Spawned { s.manager with nextTask := s.manager.nextTask + 1 }
      (s.probes s.manager.nextTask) m') :
    Progress s s.manager.nextTask [] { s with manager := m' } := by
  have hc := hs.childless
  have hnone := hs.expectsReports_nextTask
  have hidle := hs.pending_nextTask
  obtain ⟨hsame, holder, hnewer, hcollect⟩ := h
  obtain ⟨k, hk⟩ : ∃ k, k = s.manager.nextTask := ⟨_, rfl⟩
  rw [← hk] at hc hnone hidle hsame hcollect holder hnewer ⊢
  have hreports : m'.reports = s.manager.reports := by rw [hsame]
  have hnow : m'.now = s.now := by
    rw [hsame]
    rfl
  refine ⟨?_, fun j stage hj hparent => ?_,
    fun r hr => absurd (hreports ▸ hr) (Manager.not_mem_reports hnone r),
    fun e he => absurd he List.not_mem_nil, .inl hnow,
    fun j hj => holder j (hj.trans (Nat.lt_succ_self _)), fun j stage hj hstage => ?_, ?_, rfl,
    hidle⟩
  · have hreported : m'.reported k = [] := by
      rw [Manager.reported, hreports]
      exact Manager.reported_eq_nil hnone
    have hothers : s.manager.tasks.collect (Stage.probeFor? k) = [] :=
      Manager.probing_eq_nil hnone
    have hprobing : m'.probing k = s.manager.entries.toList := by
      rw [Manager.probing, hcollect, hothers, List.nil_append, filterMap_probes]
    rw [List.nil_append, hreported, hprobing]
    exact .refl _
  · rcases Nat.lt_or_ge j (k + 1) with hlt | hle
    · exact absurd hparent (hc j stage ((holder j hlt).symm.trans hj))
    · obtain ⟨e, -, rfl⟩ := List.mem_map.1 (hnewer j stage hle hj)
      exact .queued (hs.pending_of_le (hk ▸ (Nat.le_succ k).trans hle)) hnow
  · obtain ⟨e, -, rfl⟩ := List.mem_map.1 (hnewer j stage hj hstage)
    rfl
  · change m'.reports.filter _ = _
    rw [hreports]
    exact Manager.filter_reports hnone

/-- How a check begins. -/
lemma Sound.checking_or_checked (hs : s.Sound) :
    Checking s s.manager.nextTask [] (s.step (.call .checkHealth)) ∨
      Checked s s.manager.nextTask [] (s.step (.call .checkHealth)) := by
  have hfresh : Manager.Fresh { s.manager with nextTask := s.manager.nextTask + 1 } :=
    fun j stage hj => (hs.fresh j stage hj).trans (Nat.lt_succ_self _)
  have hspawned := hfresh.spawned (s.probes s.manager.nextTask)
  obtain ⟨m', hm'⟩ : ∃ m', m' =
      Manager.spawnAll { s.manager with nextTask := s.manager.nextTask + 1 }
        (s.probes s.manager.nextTask) := ⟨_, rfl⟩
  rw [← hm'] at hspawned
  have hmanager : (s.step (.call .checkHealth)).manager =
      m'.awaitProbes s.manager.nextTask .caller (s.manager.tally s.failure? []) := by
    rw [manager_step, hm']
    rfl
  have hjudged : Judged s.manager s.failure? [] m' := by
    rw [hspawned.manager]
    exact (show Judged s.manager s.failure? [] s.manager from rfl).reframe _ _ _ _
  have hbefore : ∀ stage ∈ m'.tasks.get? s.manager.nextTask, stage.parent? = none := by
    rw [hspawned.older _ (Nat.lt_succ_self _), hs.fresh.get?_nextTask]
    rintro _ ⟨⟩
  exact ((hs.progress_of_spawned hspawned).awaitProbes hjudged hbefore hmanager rfl rfl).1

end Simulation

end Tenancy
