import Tenancy.Proofs.Manager.LivePool
import Tenancy.Proofs.Simulation.Calls
import Tenancy.Proofs.Simulation.HealthCheck

/-!
# The result of a check

`Swept` says all that a check changes, by what the databases do with pings when it begins: the
numbers that it tells, the pools that are closed, and the marks of the others. It does not matter in
which order the tasks of the check take turns.
-/

namespace Tenancy

open Manager (TaskId PoolId Stage Diagnosis pingTimeout)

namespace Simulation

variable {s s' : Simulation} {k j : TaskId} {t : TenantId} {id : PoolId}
  {noted : List (TenantId × PoolId)}

/-! ### Results -/

/-- Whether a ping of a pool fails. -/
def fails (s : Simulation) (id : PoolId) : Bool := s.behaviorOf id ≠ .healthy

/-- Whether a check closes a pool: a ping of it fails, and nobody holds it. -/
def closes (s : Simulation) (id : PoolId) : Bool := s.fails id && !s.manager.isReferenced id

/-- A pool after a check, if a ping that fails leaves `mark` of the time at which it does. -/
def examined (s : Simulation) (mark : Nat → Nat) (id : PoolId) (p : Pool) : Pool :=
  match s.behaviorOf id with
  | .healthy => { p with unhealthySince := none }
  | .failing =>
    { p with
      unhealthySince := some (p.unhealthySince.getD (mark s.now))
      closed := !p.isReferenced }
  | .hanging =>
    { p with
      unhealthySince := some (p.unhealthySince.getD (mark (tick (s.now + pingTimeout.nanos))))
      closed := !p.isReferenced }

/-- What a check has done when it has ended. -/
structure Swept (s : Simulation) (mark : Nat → Nat) (s' : Simulation) : Prop where
  outcome : s'.outcome? s.manager.nextTask = some (.swept
    { checked := s.manager.entries.size
      failed := s.manager.entries.countValues s.fails
      recovered := s.manager.entries.countValues fun id =>
        !s.fails id && (s.manager.pools[id]?).any Pool.isUnhealthy
      closed := s.manager.entries.countValues s.closes })
  /-- The pools that are closed are no longer in use, and all others are. -/
  entries : s'.manager.entries.toList = s.manager.entries.toList.filter fun e => !s.closes e.2
  slots : s'.manager.slots = s.manager.slots - s.manager.entries.countValues s.closes
  pool : ∀ t id p, s.manager.entries.get? t = some id → s.manager.pools[id]? = some p →
    s'.manager.pools[id]? = some (s.examined mark id p)
  otherPool : ∀ id, (∀ t, s.manager.entries.get? t ≠ some id) →
    s'.manager.pools[id]? = s.manager.pools[id]?
  /-- The connections of the pools that are closed are closed, and no others. -/
  isClosed : ∀ c, s'.manager.ledger.isClosed c = true ↔ s.manager.ledger.isClosed c = true ∨
    ∃ t id, s.manager.entries.get? t = some id ∧ s.closes id = true ∧
      s.manager.connectionsOf id = some c
  opened : s'.manager.ledger.opened = s.manager.ledger.opened
  closed : s'.manager.ledger.closed =
    s.manager.ledger.closed + s.manager.entries.countValues s.closes
  closures : ∃ closures, s'.manager.closures = s.manager.closures ++ closures ∧
    closures.Perm ((s.manager.entries.toList.filter fun e => s.closes e.2).map
      fun e => (e.1, "health check failed"))
  /-- Nothing takes time but to wait for answers that do not come. -/
  time : s'.now =
    if s.manager.entries.toList.any fun e => s.behaviorOf e.2 = .hanging then
      tick (s.now + pingTimeout.nanos)
    else s.now
  tasks : ∀ j, s'.manager.tasks.get? j = s.manager.tasks.get? j
  otherOutcome : ∀ j ≠ s.manager.nextTask, s'.outcome? j = s.outcome? j
  kept : s'.manager = { s'.manager with
    config := s.manager.config
    shuttingDown := s.manager.shuttingDown
    closed := s.manager.closed
    started := s.manager.started
    reports := s.manager.reports
    leases := s.manager.leases }
  backend : s'.backend = { s.backend with pings := s'.backend.pings }

namespace Checked

/-- The check has read of every pool in use. -/
lemma noted_perm (h : Checked s k noted s') : noted.Perm s.manager.entries.toList := by
  have hpools := h.pools
  rwa [Manager.probing_eq_nil h.none_left, Manager.reported_eq_nil h.none_left, List.append_nil,
    List.append_nil] at hpools

lemma get?_tasks (h : Checked s s.manager.nextTask noted s') (hs : s.Sound) (j : TaskId) :
    s'.manager.tasks.get? j = s.manager.tasks.get? j := by
  rcases lt_trichotomy j s.manager.nextTask with hlt | rfl | hlt
  · exact h.older j hlt
  · rw [h.ended, hs.fresh.get?_nextTask]
  · have hnone : s.manager.tasks.get? j = none := by
      cases hj : s.manager.tasks.get? j with
      | none => rfl
      | some stage => exact absurd (hs.fresh j stage hj) (not_lt.2 hlt.le)
    rw [hnone]
    cases hj : s'.manager.tasks.get? j with
    | none => rfl
    | some stage => exact absurd (h.newer j stage hlt hj) (Manager.parent?_ne h.none_left hj)

lemma reports (h : Checked s k noted s') : s'.manager.reports = s.manager.reports :=
  (Manager.filter_reports h.none_left).symm.trans h.others

end Checked

lemma isSome_failure? (s : Simulation) (id : PoolId) : (s.failure? id).isSome = s.fails id := by
  rw [failure?, fails]
  cases s.behaviorOf id <;> rfl

lemma dooms_failure? (s : Simulation) (id : PoolId) :
    s.manager.dooms s.failure? id = s.closes id := by
  rw [Manager.dooms, isSome_failure?, closes]

lemma diagnosed_some (p : Pool) (time : Nat) :
    p.diagnosed (some time) =
      { p with unhealthySince := some (p.unhealthySince.getD (max time 1)) } := by
  cases hm : p.unhealthySince <;> simp [Pool.diagnosed, hm]

/-- What the check makes of a pool in use. -/
lemma examined_eq {p : Pool} (hp : s.manager.pools[id]? = some p) (hopen : p.closed = false) :
    { p.diagnosed (s.failure? id) with closed := p.closed || s.manager.dooms s.failure? id } =
      s.examined (max · 1) id p := by
  have hreferenced : s.manager.isReferenced id = p.isReferenced := by
    rw [Manager.isReferenced, hp]
    rfl
  have hcloses : (p.closed || s.manager.dooms s.failure? id) = (s.fails id && !p.isReferenced) := by
    rw [dooms_failure?, closes, hreferenced, hopen, Bool.false_or]
  rw [hcloses, failure?, fails, examined]
  cases s.behaviorOf id with
  | healthy => simp [Pool.diagnosed, hopen]
  | failing => simp only [diagnosed_some]; rfl
  | hanging => simp only [diagnosed_some]; rfl

lemma tally_failure? (hperm : noted.Perm s.manager.entries.toList) :
    s.manager.tally s.failure? noted =
      { checked := s.manager.entries.size
        failed := s.manager.entries.countValues s.fails
        recovered := s.manager.entries.countValues fun id =>
          !s.fails id && (s.manager.pools[id]?).any Pool.isUnhealthy
        closed := s.manager.entries.countValues s.closes } := by
  have hrecovered (id : PoolId) :
      ((s.failure? id).isNone && (s.manager.pools[id]?).elim false Pool.isUnhealthy) =
        (!s.fails id && (s.manager.pools[id]?).any Pool.isUnhealthy) := by
    rw [← isSome_failure?, Option.not_isSome]
    cases s.manager.pools[id]? <;> rfl
  rw [Manager.tally_perm hperm, Manager.tally]
  simp only [isSome_failure?, dooms_failure?, hrecovered]
  rfl

/-- A check takes as long as it waits for answers that do not come. -/
lemma Checked.time (h : Checked s k noted s') :
    s'.now =
      if s.manager.entries.toList.any fun e => s.behaviorOf e.2 = .hanging then
        tick (s.now + pingTimeout.nanos)
      else s.now := by
  by_cases hhangs : ∃ e ∈ s.manager.entries.toList, s.behaviorOf e.2 = .hanging
  · rw [if_pos (by simpa using hhangs)]
    obtain ⟨e, he, hhangs⟩ := hhangs
    have hpast := h.past e (h.noted_perm.mem_iff.2 he) (tick (s.now + pingTimeout.nanos))
      (by simp [failure?, hhangs])
    have hpositive : 0 < pingTimeout.nanos := by decide
    have htick := le_tick (s.now + pingTimeout.nanos)
    rcases h.clock with hnow | ⟨hnow, -⟩
    · omega
    · exact hnow
  · rw [if_neg (by simpa using hhangs)]
    exact h.clock.resolve_right fun hlate => hhangs hlate.2

/-- What a check has done that nobody else disturbs. -/
theorem Checked.swept (h : Checked s s.manager.nextTask noted s') (hs : s.Sound) :
    s.Swept (max · 1) s' := by
  have hperm := h.noted_perm
  have htally := tally_failure? hperm
  have hmem {t : TenantId} {id : PoolId} :
      (t, id) ∈ noted ↔ s.manager.entries.get? t = some id :=
    hperm.mem_iff.trans Assoc.get?_eq_some_iff.symm
  have hids {id : PoolId} : id ∈ noted.map Prod.snd ↔ ∃ t, s.manager.entries.get? t = some id := by
    simp only [List.mem_map, Prod.exists, exists_eq_right, hmem]
  have hclosed : (s.manager.tally s.failure? noted).closed =
      s.manager.entries.countValues s.closes := by rw [htally]
  constructor
  case outcome =>
    rw [outcome?, h.manager, Assoc.get?_insert, if_pos rfl, htally]
  case entries =>
    rw [h.manager]
    refine (Manager.toList_entries_judged hperm).trans ?_
    simp only [dooms_failure?]
  case slots =>
    rw [h.manager, ← hclosed]
    exact Manager.slots_judged _ _ _
  case pool =>
    intro t id p ht hp
    have hopen : p.closed = false := (hs.mapped.unclosed_iff hp).2 ⟨t, ht⟩
    rw [h.manager]
    refine (Manager.getElem?_pools_judged _ _ _ _).trans ?_
    rw [hp, Option.map_some, if_pos (hids.2 ⟨t, ht⟩), examined_eq hp hopen]
  case otherPool =>
    intro id hid
    rw [h.manager]
    refine (Manager.getElem?_pools_judged _ _ _ _).trans ?_
    simp only [if_neg (mt hids.1 (not_exists.2 hid)), Option.map_id']
  case isClosed =>
    intro c
    rw [h.manager]
    refine (Manager.isClosed_judged _ _ _ _).trans (or_congr_right ?_)
    simp only [Prod.exists, hmem, dooms_failure?]
  case opened =>
    rw [h.manager]
    exact Manager.opened_judged _ _ _
  case closed =>
    rw [h.manager, ← hclosed]
    exact hs.inUse.closed_judged _ hperm
  case closures =>
    refine ⟨_, (congrArg Manager.closures h.manager).trans (Manager.closures_judged _ _ _), ?_⟩
    simp only [dooms_failure?]
    exact (hperm.filter _).map _
  case time => exact h.time
  case tasks => exact h.get?_tasks hs
  case otherOutcome =>
    intro j hj
    rw [outcome?, h.manager, Assoc.get?_insert, if_neg hj]
    rfl
  case kept =>
    obtain ⟨hconfig, hdown, hclosed, hstarted, hleases⟩ :
        s'.manager.config = s.manager.config ∧
        s'.manager.shuttingDown = s.manager.shuttingDown ∧
        s'.manager.closed = s.manager.closed ∧ s'.manager.started = s.manager.started ∧
        s'.manager.leases = s.manager.leases := by
      rw [h.manager, Manager.judged, Manager.discards_eq]
      exact ⟨rfl, rfl, rfl, rfl, rfl⟩
    rw [← hconfig, ← hdown, ← hclosed, ← hstarted, ← hleases, ← h.reports]
  case backend => exact h.backend

lemma Sound.ends_swept (hs : s.Sound) (hclose : s.backend.closeDelay.nanos = 0) :
    Ends s.manager.nextTask (s.Swept (max · 1)) (s.step (.call .checkHealth)) :=
  (ends_checked hs hs.childless hclose hs.checking_or_checked).mono fun _ ⟨_, h⟩ => h.swept hs

/-- In every state that can be reached, and whatever the databases do, a check of all pools comes to
an end, as long as nobody else acts, and does what `Swept` says, whatever order its tasks take turns
in. The marks are of the times at which pings fail, but never of the time zero. An answer that does
not come is waited for as long as a ping may take, and then until the next whole millisecond, if the
check does not begin at one. -/
theorem health_sweep_exact (h : s.Reachable) (hclose : s.backend.closeDelay.nanos = 0) :
    Ends s.manager.nextTask (s.Swept (max · 1)) (s.step (.call .checkHealth)) ∧
      s.now + pingTimeout.nanos ≤ tick (s.now + pingTimeout.nanos) ∧
      tick (s.now + pingTimeout.nanos) < s.now + pingTimeout.nanos + 1000000 ∧
      (1000000 ∣ s.now → tick (s.now + pingTimeout.nanos) = s.now + pingTimeout.nanos) :=
  ⟨h.sound.ends_swept hclose, le_tick _, tick_lt _,
    fun hwhole => tick_of_dvd (Nat.dvd_add hwhole (by decide))⟩

/-- The pool of `acme` is lent as soon as the manager is made, and its database then refuses
pings. -/
def acmeHeld : Simulation :=
  { new (.new "app" "secret") (.of Manager.acmeCreated.store) 0 with
    manager := (Manager.new (.new "app" "secret")).run
      (.call (.lease "acme") :: Manager.acmeOpens 0)
    backend := { Backend.new with behaviors := .ofList [("acme_db", .failing)] } }

lemma reachable_acmeHeld : acmeHeld.Reachable := by
  obtain ⟨directory, hdirectory⟩ : ∃ directory, directory =
      Directory.of Manager.acmeCreated.store := ⟨_, rfl⟩
  have hget : directory.get "acme" = (.ok Manager.acme, directory) := by
    rw [hdirectory, Directory.get_of, Manager.require_acmeCreated]
  have hdatabase :
      Dsn.database? ((Manager.Config.new "app" "secret").addressOf Manager.acme) =
        some "acme_db" := by
    decide +kernel
  have hcalled : ((new (.new "app" "secret") directory 0).step (.call (.lease "acme"))).Reachable :=
    (Reachable.new _ _ _).event rfl
  have hanswer (s : Simulation) (hs : s.directory = directory) :
      s.answer 0 (.lookingUp .lease "acme") = (s, some (.tenant (.ok Manager.acme))) := by
    rw [answer, hs, hget, ← hs]
  have hfound := hcalled.resume rfl (hanswer _ rfl)
  have hopens {s : Simulation} (hp : s.pending.get? 0 = none)
      (hc : s.manager.config = .new "app" "secret") (hb : s.backend = Backend.new)
      (deadline : Nat) :
      s.answer 0 (.opening .lease "acme" Manager.acme deadline) =
        (s.dialled Manager.acme, some (.opened (.ok ("acme_db", 2)))) := by
    rw [answer, openFor_of_idle hp (by rw [hc]; exact hdatabase), after]
    have hp' : (s.dialled Manager.acme).pending.get? 0 = none := hp
    rw [hp', hb, hc]
    rfl
  have hopened := (hfound.resume rfl (hopens rfl rfl rfl _)).outside directory Backend.new []
  have hpinged := (hopened.resume (k := 0) rfl rfl).outside directory
    { Backend.new with behaviors := .ofList [("acme_db", .failing)] } []
  rw [hdirectory] at hpinged
  exact hpinged

/-- The pool stays in use. Its mark is that of the first nanosecond. -/
theorem health_sweep_exact_acmeHeld :
    acmeHeld.Reachable ∧ acmeHeld.backend.closeDelay.nanos = 0 ∧
      acmeHeld.manager.entries.toList = [("acme", 0)] ∧ acmeHeld.fails 0 = true ∧
      acmeHeld.closes 0 = false ∧
      (acmeHeld.manager.pools[0]?).map (fun p => (acmeHeld.examined (max · 1) 0 p).unhealthySince) =
        some (some 1) ∧
      Ends 1 (acmeHeld.Swept (max · 1)) (acmeHeld.step (.call .checkHealth)) ∧
      tick (acmeHeld.now + pingTimeout.nanos) = acmeHeld.now + pingTimeout.nanos := by
  obtain ⟨hends, -, -, hwhole⟩ := health_sweep_exact reachable_acmeHeld rfl
  exact ⟨reachable_acmeHeld, rfl, rfl, by decide +kernel, by decide +kernel, by decide +kernel,
    hends, hwhole (dvd_zero _)⟩

/-- Half a millisecond later, the database leaves pings without an answer. -/
def acmeHangs : Simulation :=
  { acmeHeld.step (.advance 500000) with
    backend := { Backend.new with behaviors := .ofList [("acme_db", .hanging)] } }

/-- A ping that fails when the manager is made does not leave a mark of that time, and a check that
begins between two whole milliseconds waits for an answer longer than a ping may take. -/
theorem not_ends_swept_acmeHeld :
    (acmeHeld.Reachable ∧ acmeHeld.backend.closeDelay.nanos = 0 ∧ acmeHeld.now = 0 ∧
      ¬Ends 1 (acmeHeld.Swept fun time => time) (acmeHeld.step (.call .checkHealth))) ∧
    acmeHangs.Reachable ∧ acmeHangs.backend.closeDelay.nanos = 0 ∧ acmeHangs.now = 500000 ∧
      ¬Ends 1 (fun s' => s'.now = acmeHangs.now + pingTimeout.nanos)
        (acmeHangs.step (.call .checkHealth)) := by
  have hhangs : acmeHangs.Reachable := (reachable_acmeHeld.event rfl).outside _ _ _
  refine ⟨⟨reachable_acmeHeld, rfl, rfl, fun hclaim => ?_⟩, hhangs, rfl, rfl, fun hclaim => ?_⟩
  · have hends : Ends 1 (acmeHeld.Swept (max · 1)) (acmeHeld.step (.call .checkHealth)) :=
      reachable_acmeHeld.sound.ends_swept rfl
    obtain ⟨s', hzero, hone⟩ := (hclaim.and hends).exists
    obtain ⟨p, hp, hzero', hone'⟩ : ∃ p, acmeHeld.manager.pools[0]? = some p ∧
        (acmeHeld.examined (fun time => time) 0 p).unhealthySince = some 0 ∧
        (acmeHeld.examined (max · 1) 0 p).unhealthySince = some 1 :=
      ⟨_, rfl, by decide +kernel, by decide +kernel⟩
    have hsame := (hzero.pool "acme" 0 p rfl hp).symm.trans (hone.pool "acme" 0 p rfl hp)
    rw [Option.some.injEq] at hsame
    rw [hsame, hone'] at hzero'
    cases hzero'
  · have hends : Ends 1 (acmeHangs.Swept (max · 1)) (acmeHangs.step (.call .checkHealth)) :=
      hhangs.sound.ends_swept rfl
    obtain ⟨s', hexact, hswept⟩ := (hclaim.and hends).exists
    have hwaits : (acmeHangs.manager.entries.toList.any fun e =>
        acmeHangs.behaviorOf e.2 = .hanging) = true := by decide +kernel
    have htime := hswept.time
    rw [if_pos hwaits, hexact] at htime
    have hlate : acmeHangs.now + pingTimeout.nanos < tick (acmeHangs.now + pingTimeout.nanos) := by
      decide +kernel
    exact hlate.ne htime

end Simulation

end Tenancy
