import Tenancy.Proofs.Manager.LivePool
import Tenancy.Proofs.Manager.Making
import Tenancy.Proofs.Simulation.Calls

/-!
# Making a pool

What comes of a request for a pool when its tenant has none and nobody else acts: `verdict` goes
through all that can be in the way, and the first that applies is the error of the request. Two
things take as long as they take: the answer of the directory, and to close connections that were
opened in vain. For the others there is a limit, and `decidedAt` is when the request ends, counted
from the answer of the directory.

`creation_decided` proves that the request always ends, then and with this verdict; that nothing is
asked of the backend before its connection string is looked at; and that a request that fails leaves
everything as it was.
-/

namespace Tenancy

open Manager (TaskId Stage Answer Request Outcome Event)

namespace Simulation

variable {s s' s₁ : Simulation} {task : TaskId} {t : TenantId} {record : Tenant} {l : Ledger}
  {stage : Stage} {database : String} {requests : List (String × OpenSettings)} {start : Nat}
  {P : Simulation → Prop}

/-! ### What comes of a request -/

/-- The record of a tenant, if a pool may be made for it now. -/
def admission (s : Simulation) (t : TenantId) : Except PoolError Tenant :=
  let config := s.manager.config
  if s.manager.shuttingDown then .error .closed
  else if 0 < config.maxPools ∧ config.maxPools ≤ s.manager.slots then
    .error (.limitReached config.maxPools)
  else
    match (s.directory.get t).1 with
    | .error cause =>
      .error (if cause.isNotFound then .tenantNotFound t else .lookupFailed t cause)
    | .ok record =>
      if record.status = .active then .ok record else .error (.notActive t record.status)

/-- What keeps connections to the database of a tenant from being put to use, if anything does. -/
def setupFault? (s : Simulation) (record : Tenant) : Option SetupFault :=
  let limit := s.manager.config.connectTimeout
  match Dsn.database? (s.manager.config.addressOf record) with
  | none => some (.opening (.noDatabase (s.manager.config.addressOf record)))
  | some database =>
    if limit.nanos < s.backend.openDelay.nanos then some (.opening (.timeout limit))
    else if s.backend.refuses then some (.opening .refused)
    else
      match s.backend.behavior database with
      | .healthy => none
      | .failing => some (.ping (.unreachable database))
      | .hanging => some (.ping (.timeout limit))

/-- The record of a tenant that gets a pool, or else the error. -/
def verdict (s : Simulation) (t : TenantId) : Except PoolError Tenant :=
  match s.admission t with
  | .error e => .error e
  | .ok record =>
    match s.setupFault? record with
    | some fault => .error (.setup t fault)
    | none => .ok record

/-- What the backend is asked to open for a request. -/
def asked (s : Simulation) (t : TenantId) : List (String × OpenSettings) :=
  match s.admission t with
  | .error _ => []
  | .ok record => [s.manager.config.requestFor record]

/-- When connections are there for a request that the directory has answered at a time. -/
def openedAt (s : Simulation) (start : Nat) : Nat := answeredAt start s.backend.openDelay

/-- When a request ends that meets a fault, if the directory has answered at a time. Connections
that do not answer the first ping are closed before. -/
def refusedAt (s : Simulation) (start : Nat) : SetupFault → Nat
  | .opening (.noDatabase _) => start
  | .opening (.timeout _) => tick (start + s.manager.config.connectTimeout.nanos)
  | .opening .refused => s.openedAt start
  | .ping (.timeout _) =>
    answeredAt (tick (s.openedAt start + s.manager.config.connectTimeout.nanos))
      s.backend.closeDelay
  | .ping _ => answeredAt (s.openedAt start) s.backend.closeDelay

/-- When a request ends, if the directory answers at a time. -/
def decidedAt (s : Simulation) (t : TenantId) (start : Nat) : Nat :=
  match s.admission t with
  | .error _ => start
  | .ok record => (s.setupFault? record).elim (s.openedAt start) (s.refusedAt start)

section Verdict

variable {e : PoolError} {fault : SetupFault}

lemma setupFault?_of_noDatabase
    (hd : Dsn.database? (s.manager.config.addressOf record) = none) :
    s.setupFault? record =
      some (.opening (.noDatabase (s.manager.config.addressOf record))) := by
  simp only [setupFault?, hd]

lemma setupFault?_of_slow (hd : Dsn.database? (s.manager.config.addressOf record) = some database)
    (hslow : s.manager.config.connectTimeout.nanos < s.backend.openDelay.nanos) :
    s.setupFault? record = some (.opening (.timeout s.manager.config.connectTimeout)) := by
  simp only [setupFault?, hd, if_pos hslow]

lemma setupFault?_of_refuses
    (hd : Dsn.database? (s.manager.config.addressOf record) = some database)
    (hfast : ¬s.manager.config.connectTimeout.nanos < s.backend.openDelay.nanos)
    (hrefuses : s.backend.refuses = true) :
    s.setupFault? record = some (.opening .refused) := by
  simp only [setupFault?, hd, if_neg hfast, hrefuses, if_true]

/-- Connections that are opened in time are put to use if they answer a ping. -/
lemma setupFault?_of_serves (hd : Dsn.database? (s.manager.config.addressOf record) = some database)
    (hfast : ¬s.manager.config.connectTimeout.nanos < s.backend.openDelay.nanos)
    (hserves : s.backend.refuses = false) :
    s.setupFault? record =
      match s.backend.behavior database with
      | .healthy => none
      | .failing => some (.ping (.unreachable database))
      | .hanging => some (.ping (.timeout s.manager.config.connectTimeout)) := by
  simp only [setupFault?, hd, if_neg hfast, hserves, Bool.false_eq_true, if_false]

lemma verdict_of_error (h : s.admission t = .error e) : s.verdict t = .error e := by
  rw [verdict, h]

lemma verdict_of_fault (h : s.admission t = .ok record)
    (hfault : s.setupFault? record = some fault) : s.verdict t = .error (.setup t fault) := by
  simp only [verdict, h, hfault]

lemma verdict_of_none (h : s.admission t = .ok record) (hfault : s.setupFault? record = none) :
    s.verdict t = .ok record := by
  simp only [verdict, h, hfault]

lemma asked_of_error (h : s.admission t = .error e) : s.asked t = [] := by rw [asked, h]

lemma asked_of_ok (h : s.admission t = .ok record) :
    s.asked t = [s.manager.config.requestFor record] := by rw [asked, h]

lemma admission_congr (hm : s'.manager = s.manager) (hd : s'.directory = s.directory) :
    s'.admission t = s.admission t := by
  rw [admission, admission, hm, hd]

lemma decidedAt_of_error (h : s.admission t = .error e) : s.decidedAt t start = start := by
  rw [decidedAt, h]

lemma decidedAt_of_fault (h : s.admission t = .ok record)
    (hfault : s.setupFault? record = some fault) :
    s.decidedAt t start = s.refusedAt start fault := by
  simp only [decidedAt, h, hfault, Option.elim_some]

lemma decidedAt_of_none (h : s.admission t = .ok record) (hfault : s.setupFault? record = none) :
    s.decidedAt t start = s.openedAt start := by
  simp only [decidedAt, h, hfault, Option.elim_none]

/-- A request waits for connections, and then for a ping, each time no longer than connecting may
take. -/
lemma decidedAt_le (htimeout : 1000000 ∣ s.manager.config.connectTimeout.nanos) (start : Nat) :
    s.decidedAt t start ≤
      answeredAt (tick (start + 2 * s.manager.config.connectTimeout.nanos))
        s.backend.closeDelay := by
  obtain ⟨limit, hlimit⟩ : ∃ limit, limit = s.manager.config.connectTimeout.nanos := ⟨_, rfl⟩
  rw [← hlimit] at htimeout ⊢
  have hstart : start ≤ tick (start + 2 * limit) := le_tick_add _ _
  have hfirst : tick (start + limit) ≤ tick (start + 2 * limit) := tick_mono (by omega)
  have hclosed := le_answeredAt (tick (start + 2 * limit)) s.backend.closeDelay
  cases hadmission : s.admission t with
  | error e =>
    rw [decidedAt_of_error hadmission]
    exact hstart.trans hclosed
  | ok record =>
    cases hd : Dsn.database? (s.manager.config.addressOf record) with
    | none =>
      rw [decidedAt_of_fault hadmission (setupFault?_of_noDatabase hd), refusedAt]
      exact hstart.trans hclosed
    | some database =>
      by_cases hslow : s.manager.config.connectTimeout.nanos < s.backend.openDelay.nanos
      · rw [decidedAt_of_fault hadmission (setupFault?_of_slow hd hslow), refusedAt, ← hlimit]
        exact hfirst.trans hclosed
      have hopened : s.openedAt start ≤ tick (start + limit) := by
        rw [openedAt, hlimit]
        exact answeredAt_le (not_lt.1 hslow)
      cases hrefuses : s.backend.refuses with
      | true =>
        rw [decidedAt_of_fault hadmission (setupFault?_of_refuses hd hslow hrefuses), refusedAt]
        exact (hopened.trans hfirst).trans hclosed
      | false =>
        have hfault := setupFault?_of_serves hd hslow hrefuses
        cases hb : s.backend.behavior database with
        | healthy =>
          rw [decidedAt_of_none hadmission (by rw [hfault, hb])]
          exact (hopened.trans hfirst).trans hclosed
        | failing =>
          rw [hb] at hfault
          rw [decidedAt_of_fault hadmission hfault, refusedAt]
          · exact answeredAt_mono (hopened.trans hfirst)
          · nofun
        | hanging =>
          rw [hb] at hfault
          rw [decidedAt_of_fault hadmission hfault, refusedAt, ← hlimit]
          refine answeredAt_mono ?_
          calc tick (s.openedAt start + limit)
              ≤ tick (tick (start + limit) + limit) := tick_mono (Nat.add_le_add_right hopened _)
            _ = tick (start + limit) + limit := by rw [tick_add_of_dvd _ htimeout, tick_tick]
            _ = tick (start + 2 * limit) := by
              rw [← tick_add_of_dvd _ htimeout, two_mul, Nat.add_assoc]

end Verdict

/-! ### On the way -/

/-- A state in which the next request to `s` is making a pool. -/
structure Makes (s : Simulation) (l : Ledger) (stage : Stage)
    (requests : List (String × OpenSettings)) (s' : Simulation) : Prop where
  manager : s'.manager = s.manager.making s'.now l stage
  backend : s'.backend = { s.backend with requests := requests, pings := s'.backend.pings }

namespace Makes

lemma get?_tasks (h : s.Makes l stage requests s') :
    s'.manager.tasks.get? s.manager.nextTask = some stage := by
  rw [h.manager]
  exact Manager.get?_tasks_making

lemma childless (h : s.Makes l stage requests s') (hs : s.Sound) (hstage : stage.parent? = none) :
    s'.Childless s.manager.nextTask := by
  intro j stage' hj hparent
  rw [h.manager, Manager.making, Assoc.get?_insert] at hj
  split at hj
  · cases hj
    rw [hstage] at hparent
    cases hparent
  · exact hs.childless j stage' hj hparent

lemma config (h : s.Makes l stage requests s') : s'.manager.config = s.manager.config := by
  rw [h.manager]
  rfl

lemma advanceTo {time : Nat} (h : s.Makes l stage requests s') :
    s.Makes l stage requests (s'.advanceTo time) := by
  refine ⟨?_, h.backend⟩
  rw [Simulation.advanceTo, manager_step, Manager.step, h.manager]
  rfl

lemma hold (h : s.Makes l stage requests s') (wake : Option Nat) :
    s.Makes l stage requests (s'.hold task wake) := ⟨h.manager, h.backend⟩

lemma hangUp (h : s.Makes l stage requests s') :
    s.Makes l stage requests (s'.hangUp task) := ⟨h.manager, h.backend⟩

lemma dialled (h : s.Makes l stage requests s') (record : Tenant) :
    s.Makes l stage (requests ++ [s.manager.config.requestFor record])
      (s'.dialled record) := by
  refine ⟨h.manager, ?_⟩
  rw [Simulation.dialled, h.config, h.backend]

/-- The next stage, when the answer leads to one. -/
lemma resume {a : Answer} {l' : Ledger} {stage' : Stage} (h : s.Makes l stage requests s')
    (ha : (s.manager.making s'.now l stage).answer s.manager.nextTask stage a =
      s.manager.making s'.now l' stage') :
    s.Makes l' stage' requests (s'.step (.resume s.manager.nextTask a)) := by
  have hstep : (s'.step (.resume s.manager.nextTask a)).manager =
      s.manager.making s'.now l' stage' := by
    rw [← ha, manager_step, Manager.step_resume h.get?_tasks, ← h.manager]
  refine ⟨?_, h.backend⟩
  rw [now, hstep]
  rfl

lemma now_resume {a : Answer} {l' : Ledger} {stage' : Stage} (h : s.Makes l stage requests s')
    (ha : (s.manager.making s'.now l stage).answer s.manager.nextTask stage a =
      s.manager.making s'.now l' stage') :
    (s'.step (.resume s.manager.nextTask a)).now = s'.now := by
  rw [now, manager_step, Manager.step_resume h.get?_tasks, h.manager, ha]
  rfl

/-- A request that opens connections has them as soon as the backend has opened them, unless this
takes longer than it waits. -/
lemma opening {deadline : Nat} (h : s.Makes l (.opening .get t record deadline) requests s')
    (hs : s.Sound) (hp : s'.pending.get? s.manager.nextTask = none)
    (hd : Dsn.database? (s.manager.config.addressOf record) = some database)
    (hdeadline : deadline = s'.now + s.manager.config.connectTimeout.nanos)
    (hdelay : 1000000 ∣ s.backend.openDelay.nanos)
    (htimeout : 1000000 ∣ s.manager.config.connectTimeout.nanos)
    (hend : ∀ s₁ a, s.Makes l (.opening .get t record deadline)
        (requests ++ [s.manager.config.requestFor record]) s₁ →
      s₁.pending.get? s.manager.nextTask = none →
      (if s.manager.config.connectTimeout.nanos < s.backend.openDelay.nanos then
        a = .elapsed ∧ s₁.now = tick deadline
      else
        a = .opened (s.backend.opened database s.manager.config.minConnections) ∧
          s₁.now = s.openedAt s'.now) →
      Ends s.manager.nextTask P (s₁.step (.resume s.manager.nextTask a))) :
    Ends s.manager.nextTask P s' := by
  set k := s.manager.nextTask
  set delay := s.backend.openDelay
  set limit := s.manager.config.connectTimeout
  set a : Answer := .opened (s.backend.opened database s.manager.config.minConnections)
  have hc := h.childless hs rfl
  have hopened {u : Simulation} {r : List (String × OpenSettings)}
      (hu : s.Makes l (.opening .get t record deadline) r u) :
      u.backend.openDelay = delay ∧
        Answer.opened (u.backend.opened database u.manager.config.minConnections) = a := by
    rw [hu.backend, hu.config]
    exact ⟨rfl, rfl⟩
  have hask : s'.answer k (.opening .get t record deadline) =
      orElapsed deadline k ((s'.dialled record).after k delay a) := by
    rw [answer, openFor_of_idle hp (by rw [h.config, hd]), (hopened h).1, (hopened h).2]
  by_cases hzero : delay.nanos = 0
  · have hatOnce : s'.answer k (.opening .get t record deadline) =
        (s'.dialled record, some a) := by
      have hidle : (s'.dialled record).pending.get? k = none := hp
      simp [hask, after, hidle, Duration.isZero, hzero, orElapsed]
    refine .of_answer hc h.get?_tasks hatOnce (hend _ a (h.dialled record) hp ?_)
    rw [if_neg (by omega)]
    exact ⟨rfl, (answeredAt_of_zero hzero).symm⟩
  · obtain ⟨wake, hwake⟩ : ∃ wake, wake = tick (s'.now + delay.nanos) := ⟨_, rfl⟩
    obtain ⟨u, hu⟩ : ∃ u, u = (s'.dialled record).hold k (some wake) := ⟨_, rfl⟩
    have hcall : s'.answer k (.opening .get t record deadline) =
        orElapsed deadline k (u, none) := by
      have hidle : (s'.dialled record).pending.get? k = none := hp
      have hnow : (s'.dialled record).now = s'.now := rfl
      simp [hask, after, hidle, Duration.isZero, hzero, wait, hnow, ← hwake, hu, Simulation.hold]
    have hmakes : s.Makes l (.opening .get t record deadline) _ u := hu ▸ (h.dialled record).hold _
    have hpending : u.pending.get? k = some (some wake) := hu ▸ get?_pending_hold _
    have hunow : u.now = s'.now := hu ▸ rfl
    have hlater : s'.now < wake := by
      have htick := le_tick (s'.now + delay.nanos)
      omega
    -- Both times are rounded up alike, so that the earlier one stays the earlier one.
    have hwhole : wake = tick s'.now + delay.nanos := hwake.trans (tick_add_of_dvd _ hdelay)
    have hover : tick deadline = tick s'.now + limit.nanos := by
      rw [hdeadline, tick_add_of_dvd _ htimeout]
    have hsince : s'.now ≤ tick deadline := hdeadline ▸ le_tick_add _ _
    refine .of_call (some wake) a hc h.get?_tasks ?_ ?_ hcall ?_ (fun time htime => ?_)
      (fun time htime hle => ?_) fun hlate => ?_
    · omega
    · rintro _ ⟨⟩
      exact hlater
    · rw [alarm?, hpending]
      rfl
    · have hadvanced : s.Makes l (.opening .get t record deadline) _ (u.advanceTo time) :=
        hmakes.advanceTo
      have hd' : Dsn.database? ((u.advanceTo time).manager.config.addressOf record) =
          some database := by
        rw [hadvanced.config, hd]
      have hreached : (u.advanceTo time).now = time := now_advanceTo (hunow ▸ htime)
      rw [answer, openFor_of_pending (by rw [pending_advanceTo, hpending]) hd',
        (hopened hadvanced).1, (hopened hadvanced).2, after, pending_advanceTo, hpending, hreached]
      rfl
    · cases htime
      refine hend _ a hmakes.advanceTo.hangUp get?_pending_hangUp ?_
      rw [if_neg (by omega)]
      have hreached : (u.advanceTo wake).now = wake := now_advanceTo (hunow.trans_le hlater.le)
      refine ⟨rfl, (now_hangUp _ _).trans (hreached.trans ?_)⟩
      exact hwake.trans (answeredAt_of_ne hzero).symm
    · have hlt := hlate _ rfl
      refine hend _ .elapsed hmakes.advanceTo.hangUp get?_pending_hangUp ?_
      rw [if_pos (by omega)]
      exact ⟨rfl, (now_hangUp _ _).trans (now_advanceTo (hunow.trans_le hsince))⟩

/-- Without the number of pings so far a state is as good as with it. -/
lemma pinged (h : s.Makes l stage requests s') (pings : Nat) :
    s.Makes l stage requests { s' with backend.pings := pings } :=
  ⟨h.manager, congrArg (fun b : Backend => { b with pings := pings }) h.backend⟩

/-- The first ping is answered at once, or else it is given up when the request has waited for it as
long as it waits. -/
lemma pinging {deadline size : Nat} {id : ConnectionsId}
    (h : s.Makes l (.pinging .get t record id deadline) requests s') (hs : s.Sound)
    (hp : s'.pending.get? s.manager.nextTask = none)
    (hid : l.all[id]? = some ⟨database, size, false⟩)
    (hdeadline : deadline = s'.now + s.manager.config.connectTimeout.nanos)
    (hend : ∀ s₁ a, s.Makes l (.pinging .get t record id deadline) requests s₁ →
      s₁.pending.get? s.manager.nextTask = none →
      (match s.backend.behavior database with
        | .healthy => a = .pinged (.ok ()) ∧ s₁.now = s'.now
        | .failing => a = .pinged (.error (.unreachable database)) ∧ s₁.now = s'.now
        | .hanging => a = .elapsed ∧ s₁.now = tick deadline) →
      Ends s.manager.nextTask P (s₁.step (.resume s.manager.nextTask a))) :
    Ends s.manager.nextTask P s' := by
  set k := s.manager.nextTask
  have hc : s'.Childless k := h.childless hs rfl
  have hledger : s'.manager.ledger.all[id]? = some ⟨database, size, false⟩ := by
    rw [h.manager]
    exact hid
  have hbehavior : s'.backend.behavior database = s.backend.behavior database := by
    rw [h.backend]
    rfl
  obtain ⟨u, hu⟩ : ∃ u, u = { s' with backend.pings := s'.backend.pings + 1 } := ⟨_, rfl⟩
  have hmakes : s.Makes l (.pinging .get t record id deadline) requests u := hu ▸ h.pinged _
  have hidle : u.pending.get? k = none := hu ▸ hp
  have hunow : u.now = s'.now := hu ▸ rfl
  have hatOnce {result : Except PingFault Unit}
      (hping : s'.backend.ping? ⟨database, size, false⟩ = some result) :
      s'.answer k (.pinging .get t record id deadline) = (u, some (.pinged result)) := by
    simp [answer, pingFor, hp, hledger, hping, orElapsed, hu]
  cases hb : s.backend.behavior database with
  | healthy =>
    have hping : s'.backend.ping? ⟨database, size, false⟩ = some (.ok ()) := by
      simp [Backend.ping?, hbehavior, hb]
    refine .of_answer hc h.get?_tasks (hatOnce hping) (hend u _ hmakes hidle ?_)
    rw [hb]
    exact ⟨rfl, hunow⟩
  | failing =>
    have hping : s'.backend.ping? ⟨database, size, false⟩ =
        some (.error (.unreachable database)) := by
      simp [Backend.ping?, hbehavior, hb]
    refine .of_answer hc h.get?_tasks (hatOnce hping) (hend u _ hmakes hidle ?_)
    rw [hb]
    exact ⟨rfl, hunow⟩
  | hanging =>
    have hcall : s'.answer k (.pinging .get t record id deadline) =
        orElapsed deadline k (u.hold k none, none) := by
      have hping : s'.backend.ping? ⟨database, size, false⟩ = none := by
        simp [Backend.ping?, hbehavior, hb]
      simp only [answer, pingFor, hp, hledger, hping, hu]
      rfl
    have hpending : (u.hold k none).pending.get? k = some none := get?_pending_hold none
    have hnever : ∀ time, time ∉ (none : Option Nat) := fun _ => Option.not_mem_none _
    refine .of_call none .closed hc h.get?_tasks (by omega)
      (fun time h => absurd h (hnever time)) hcall ?_ (fun time htime => ?_)
      (fun time h => absurd h (hnever time)) fun _ => ?_
    · rw [alarm?, hpending]
      rfl
    · rw [answer, pingFor, pending_advanceTo, hpending]
      rfl
    · refine hend _ .elapsed (hmakes.hold none).advanceTo.hangUp get?_pending_hangUp ?_
      rw [hb]
      have hsince : u.now ≤ tick deadline := hunow.trans_le (hdeadline ▸ le_tick_add _ _)
      exact ⟨rfl, (now_hangUp _ _).trans (now_advanceTo hsince)⟩

/-- Connections that have not answered are closed, which may take time. -/
lemma rejecting {id : ConnectionsId} {fault : PingFault}
    (h : s.Makes l (.rejecting .get t id fault) requests s') (hs : s.Sound)
    (hp : s'.pending.get? s.manager.nextTask = none)
    (hend : ∀ s₁, s.Makes l (.rejecting .get t id fault) requests s₁ →
      s₁.now = answeredAt s'.now s.backend.closeDelay →
      Ends s.manager.nextTask P (s₁.step (.resume s.manager.nextTask .closed))) :
    Ends s.manager.nextTask P s' := by
  set k := s.manager.nextTask
  set delay := s.backend.closeDelay
  have hc := h.childless hs rfl
  have hdelay : s'.backend.closeDelay = delay := by
    rw [h.backend]
  have hask : s'.answer k (.rejecting .get t id fault) = s'.after k delay .closed := by
    rw [answer, hdelay]
  by_cases hzero : delay.nanos = 0
  · have hatOnce : s'.answer k (.rejecting .get t id fault) = (s', some .closed) := by
      simp [hask, after, hp, Duration.isZero, hzero]
    exact .of_answer hc h.get?_tasks hatOnce (hend _ h (answeredAt_of_zero hzero).symm)
  · obtain ⟨wake, hwake⟩ : ∃ wake, wake = tick (s'.now + delay.nanos) := ⟨_, rfl⟩
    obtain ⟨u, hu⟩ : ∃ u, u = s'.hold k (some wake) := ⟨_, rfl⟩
    have hmakes : s.Makes l (.rejecting .get t id fault) requests u := hu ▸ h.hold _
    have hpending : u.pending.get? k = some (some wake) := hu ▸ get?_pending_hold _
    have hunow : u.now = s'.now := hu ▸ rfl
    have hlater : s'.now < wake := by
      have htick := le_tick (s'.now + delay.nanos)
      omega
    have hsilent : s'.answer k (.rejecting .get t id fault) = (u, none) := by
      simp [hask, after, hp, Duration.isZero, hzero, wait, ← hwake, hu, Simulation.hold]
    have hagain : u.answer k (.rejecting .get t id fault) = (u, none) := by
      have hearly : ¬wake ≤ u.now := by omega
      simp [answer, after, hpending, hearly]
    have hreached : (u.advanceTo wake).now = wake := now_advanceTo (hunow.trans_le hlater.le)
    have htold : (u.advanceTo wake).answer k (.rejecting .get t id fault) =
        ((u.advanceTo wake).hangUp k, some .closed) := by
      simp [answer, after, pending_advanceTo, hpending, hreached, Simulation.hangUp]
    have halarm : u.alarm? k (.rejecting .get t id fault) = some wake := by
      simp [alarm?, hpending]
    refine .of_silence hc h.get?_tasks hsilent hagain halarm hlater ?_
    refine .of_answer (hmakes.advanceTo.childless hs rfl) hmakes.advanceTo.get?_tasks htold ?_
    refine hend _ hmakes.advanceTo.hangUp ((now_hangUp _ _).trans (hreached.trans ?_))
    exact hwake.trans (answeredAt_of_ne hzero).symm

end Makes

/-! ### Ends -/

/-- The next request to `s` was refused: nothing else is different but the time, and connections
that were opened in vain and are closed. -/
structure Refused (s : Simulation) (e : PoolError) (s' : Simulation) : Prop where
  manager : s'.manager = s.manager.refusing s'.now s'.manager.ledger e
  ledger : s.manager.ledger.SameLive s'.manager.ledger

/-- The next request to `s` was served with a new pool. -/
structure Served (s : Simulation) (t : TenantId) (record : Tenant) (s' : Simulation) : Prop where
  manager : ∃ database, Dsn.database? (s.manager.config.addressOf record) = some database ∧
    s'.manager = s.manager.serving s'.now t record
      (s.manager.ledger.open database s.manager.config.minConnections)

/-- What holds when the next request to `s` has ended, which asks for the pool of a tenant, if the
directory has answered it at a time. -/
structure Decided (s : Simulation) (t : TenantId) (start : Nat) (s' : Simulation) : Prop where
  outcome :
    match s.verdict t with
    | .error e => s.Refused e s'
    | .ok record => s.Served t record s'
  /-- The backend was asked for the connections of a tenant that is admitted, and for no others. -/
  backend : s'.backend =
    { s.backend with
      requests := s.backend.requests ++ s.asked t
      pings := s'.backend.pings }
  time : s'.now = s.decidedAt t start

lemma Sound.ends_of_tasks (hs : s.Sound) (hdecided : s.Decided t start s')
    (htasks : s'.manager.tasks = s.manager.tasks) :
    Ends s.manager.nextTask (s.Decided t start) s' := by
  refine .of_ended (fun j => ?_) ?_ hdecided
  · rw [htasks]
    exact hs.childless j
  · rw [htasks]
    exact hs.fresh.get?_nextTask

lemma Sound.ends_refused {e : PoolError} (hs : s.Sound) (hv : s.verdict t = .error e)
    (hm : s'.manager = s.manager.refusing s'.now l e) (hl : s.manager.ledger.SameLive l)
    (hb : s'.backend =
      { s.backend with
        requests := s.backend.requests ++ s.asked t
        pings := s'.backend.pings })
    (htime : s'.now = s.decidedAt t start) :
    Ends s.manager.nextTask (s.Decided t start) s' := by
  have hledger : s'.manager.ledger = l := by rw [hm]; rfl
  refine hs.ends_of_tasks ⟨?_, hb, htime⟩ (by rw [hm]; rfl)
  rw [hv]
  exact ⟨hledger ▸ hm, hledger ▸ hl⟩

namespace Makes

/-- A request that gives up has been refused. -/
lemma ends_giveUp {a : Answer} {e : PoolError} {l' : Ledger} (hs : s.Sound)
    (h : s.Makes l stage (s.backend.requests ++ s.asked t) s') (hv : s.verdict t = .error e)
    (ha : (s.manager.making s'.now l stage).answer s.manager.nextTask stage a =
      s.manager.refusing s'.now l' e)
    (hl : s.manager.ledger.SameLive l') (htime : s'.now = s.decidedAt t start) :
    Ends s.manager.nextTask (s.Decided t start) (s'.step (.resume s.manager.nextTask a)) := by
  have hstep : (s'.step (.resume s.manager.nextTask a)).manager =
      s.manager.refusing s'.now l' e := by
    rw [← ha, manager_step, Manager.step_resume h.get?_tasks, ← h.manager]
  have hnow : (s'.step (.resume s.manager.nextTask a)).now = s'.now := by
    rw [now, hstep]
    rfl
  exact hs.ends_refused hv (hnow ▸ hstep) hl h.backend (hnow.trans htime)

/-- Connections that have not answered are closed, and the request is refused. -/
lemma ends_rejecting {size : Nat} {fault : PingFault} (hs : s.Sound)
    (h : s.Makes (s.manager.ledger.open database size)
      (.rejecting .get t s.manager.ledger.next fault) (s.backend.requests ++ s.asked t) s')
    (hp : s'.pending.get? s.manager.nextTask = none)
    (hv : s.verdict t = .error (.setup t (.ping fault)))
    (htime : answeredAt s'.now s.backend.closeDelay = s.decidedAt t start) :
    Ends s.manager.nextTask (s.Decided t start) s' := by
  refine h.rejecting hs hp fun s₁ hs₁ hnow => ?_
  refine hs₁.ends_giveUp hs hv ?_ (Ledger.sameLive_close_open _ database size)
    (hnow.trans htime)
  exact hs.fresh.giveUp_making _

/-- Connections that were opened are put to use if they answer. -/
lemma ends_pinging {deadline : Nat} (hs : s.Sound) (hadmitted : s.admission t = .ok record)
    (h : s.Makes (s.manager.ledger.open database s.manager.config.minConnections)
      (.pinging .get t record s.manager.ledger.next deadline)
      (s.backend.requests ++ s.asked t) s')
    (hp : s'.pending.get? s.manager.nextTask = none)
    (hd : Dsn.database? (s.manager.config.addressOf record) = some database)
    (ht : s.manager.entries.get? t = none) (hopen : s.manager.shuttingDown = false)
    (hfast : ¬s.manager.config.connectTimeout.nanos < s.backend.openDelay.nanos)
    (hserves : s.backend.refuses = false)
    (hdeadline : deadline = s'.now + s.manager.config.connectTimeout.nanos)
    (hnow : s'.now = s.openedAt start) :
    Ends s.manager.nextTask (s.Decided t start) s' := by
  have hid : (s.manager.ledger.open database s.manager.config.minConnections).all[
      s.manager.ledger.next]? = some ⟨database, s.manager.config.minConnections, false⟩ :=
    List.getElem?_concat_length
  have hfault := setupFault?_of_serves hd hfast hserves
  have hrefused {s₁ : Simulation} {a : Answer} {fault : PingFault}
      (hs₁ : s.Makes (s.manager.ledger.open database s.manager.config.minConnections)
        (.pinging .get t record s.manager.ledger.next deadline)
        (s.backend.requests ++ s.asked t) s₁)
      (hp₁ : s₁.pending.get? s.manager.nextTask = none)
      (ha : (s.manager.making s₁.now (s.manager.ledger.open database
          s.manager.config.minConnections)
        (.pinging .get t record s.manager.ledger.next deadline)).answer s.manager.nextTask
          (.pinging .get t record s.manager.ledger.next deadline) a =
        s.manager.making s₁.now (s.manager.ledger.open database s.manager.config.minConnections)
          (.rejecting .get t s.manager.ledger.next fault))
      (hf : s.setupFault? record = some (.ping fault))
      (htime : answeredAt s₁.now s.backend.closeDelay = s.refusedAt start (.ping fault)) :
      Ends s.manager.nextTask (s.Decided t start) (s₁.step (.resume s.manager.nextTask a)) := by
    refine ends_rejecting hs (hs₁.resume ha) hp₁ (verdict_of_fault hadmitted hf) ?_
    rw [hs₁.now_resume ha, decidedAt_of_fault hadmitted hf]
    exact htime
  refine h.pinging hs hp hid hdeadline fun s₁ a hs₁ hp₁ hend => ?_
  cases hb : s.backend.behavior database with
  | healthy =>
    rw [hb] at hend hfault
    obtain ⟨rfl, hnow₁⟩ := hend
    have hserved : (s₁.step (.resume s.manager.nextTask (.pinged (.ok ())))).manager =
        s.manager.serving s₁.now t record
          (s.manager.ledger.open database s.manager.config.minConnections) := by
      rw [manager_step, Manager.step_resume hs₁.get?_tasks, hs₁.manager]
      exact hs.fresh.enter_making ht hopen record
    have htime : (s₁.step (.resume s.manager.nextTask (.pinged (.ok ())))).now = s₁.now := by
      rw [now, hserved]
      rfl
    refine hs.ends_of_tasks ⟨?_, hs₁.backend, ?_⟩ (by rw [hserved]; rfl)
    · rw [verdict_of_none hadmitted hfault]
      exact ⟨database, hd, htime ▸ hserved⟩
    · rw [decidedAt_of_none hadmitted hfault, htime, hnow₁, hnow]
  | failing =>
    rw [hb] at hend hfault
    obtain ⟨rfl, hnow₁⟩ := hend
    refine hrefused hs₁ hp₁ Manager.await_making hfault ?_
    rw [hnow₁, hnow]
    rfl
  | hanging =>
    rw [hb] at hend hfault
    obtain ⟨rfl, hnow₁⟩ := hend
    have hover : deadline ≤ s₁.now := hnow₁ ▸ le_tick deadline
    refine hrefused hs₁ hp₁ ((if_pos hover).trans Manager.await_making) hfault ?_
    rw [hnow₁, hdeadline, hnow, refusedAt]

/-- The request of a tenant that is admitted opens connections, if its string names a database. -/
lemma ends_opening {deadline : Nat} (hs : s.Sound) (hadmitted : s.admission t = .ok record)
    (h : s.Makes s.manager.ledger (.opening .get t record deadline) s.backend.requests s')
    (hp : s'.pending.get? s.manager.nextTask = none)
    (ht : s.manager.entries.get? t = none) (hopen : s.manager.shuttingDown = false)
    (hdelay : 1000000 ∣ s.backend.openDelay.nanos)
    (htimeout : 1000000 ∣ s.manager.config.connectTimeout.nanos)
    (hdeadline : deadline = s'.now + s.manager.config.connectTimeout.nanos) :
    Ends s.manager.nextTask (s.Decided t s'.now) s' := by
  have hasked : s.backend.requests ++ [s.manager.config.requestFor record] =
      s.backend.requests ++ s.asked t := by rw [asked_of_ok hadmitted]
  cases hd : Dsn.database? (s.manager.config.addressOf record) with
  | none =>
    have hfault := setupFault?_of_noDatabase hd
    have hatOnce : s'.answer s.manager.nextTask (.opening .get t record deadline) =
        (s'.dialled record,
          some (.opened (.error (.noDatabase (s.manager.config.addressOf record))))) := by
      rw [answer, openFor_of_noDatabase hp (by rw [h.config, hd]), h.config]
      rfl
    have hdialled := hasked ▸ h.dialled record
    refine .of_answer (h.childless hs rfl) h.get?_tasks hatOnce
      (hdialled.ends_giveUp hs (verdict_of_fault hadmitted hfault) (hs.fresh.giveUp_making _)
        (.refl _) ?_)
    rw [decidedAt_of_fault hadmitted hfault]
    rfl
  | some database =>
    refine h.opening hs hp hd hdeadline hdelay htimeout fun s₁ a hs₁ hp₁ hend => ?_
    rw [hasked] at hs₁
    split at hend
    next hslow =>
      obtain ⟨rfl, hnow₁⟩ := hend
      have hfault := setupFault?_of_slow hd hslow
      have hover : deadline ≤ s₁.now := hnow₁ ▸ le_tick deadline
      refine hs₁.ends_giveUp hs (verdict_of_fault hadmitted hfault)
        ((if_pos hover).trans (hs.fresh.giveUp_making _)) (.refl _) ?_
      rw [decidedAt_of_fault hadmitted hfault, hnow₁, hdeadline, refusedAt]
    next hfast =>
      obtain ⟨rfl, hnow₁⟩ := hend
      cases hrefuses : s.backend.refuses with
      | true =>
        have hfault := setupFault?_of_refuses hd hfast hrefuses
        have hopened : s.backend.opened database s.manager.config.minConnections =
            .error .refused := by simp only [Backend.opened, hrefuses, if_true]
        rw [hopened]
        refine hs₁.ends_giveUp hs (verdict_of_fault hadmitted hfault)
          (hs.fresh.giveUp_making _) (.refl _) ?_
        rw [decidedAt_of_fault hadmitted hfault, hnow₁, refusedAt]
      | false =>
        have hopened : s.backend.opened database s.manager.config.minConnections =
            .ok (database, s.manager.config.minConnections) := by
          simp only [Backend.opened, hrefuses, Bool.false_eq_true, if_false]
        rw [hopened]
        have hpings := s.manager.answer_opened_making s₁.now t record deadline database
          s.manager.config.minConnections
        have hnow₂ := hs₁.now_resume hpings
        exact ends_pinging hs hadmitted (hs₁.resume hpings) hp₁ hd ht hopen hfast hrefuses
          (by rw [hnow₂]) (hnow₂.trans hnow₁)

/-- A request that has a slot goes on with the record of its tenant, if this one is active. -/
lemma ends_lookingUp (hs : s.Sound)
    (h : s.Makes s.manager.ledger (.lookingUp .get t) s.backend.requests s')
    (hp : s'.pending.get? s.manager.nextTask = none) (hdirectory : s'.directory = s.directory)
    (ht : s.manager.entries.get? t = none) (hopen : s.manager.shuttingDown = false)
    (hroom : ¬(0 < s.manager.config.maxPools ∧ s.manager.config.maxPools ≤ s.manager.slots))
    (hdelay : 1000000 ∣ s.backend.openDelay.nanos)
    (htimeout : 1000000 ∣ s.manager.config.connectTimeout.nanos) :
    Ends s.manager.nextTask (s.Decided t s'.now) s' := by
  have hadmission : s.admission t =
      match (s.directory.get t).1 with
      | .error cause =>
        .error (if cause.isNotFound then .tenantNotFound t else .lookupFailed t cause)
      | .ok record =>
        if record.status = .active then .ok record else .error (.notActive t record.status) := by
    simp only [admission, hopen, Bool.false_eq_true, if_false, if_neg hroom]
  obtain ⟨u, hu⟩ : ∃ u, u = { s' with directory := (s.directory.get t).2 } := ⟨_, rfl⟩
  have hlookup : s'.answer s.manager.nextTask (.lookingUp .get t) =
      (u, some (.tenant (s.directory.get t).1)) := by
    rw [answer, hdirectory, hu]
  have hmakes : s.Makes s.manager.ledger (.lookingUp .get t) s.backend.requests u := by
    rw [hu]
    exact ⟨h.manager, h.backend⟩
  have hidle : u.pending.get? s.manager.nextTask = none := hu ▸ hp
  have hnow : u.now = s'.now := hu ▸ rfl
  refine .of_answer (h.childless hs rfl) h.get?_tasks hlookup ?_
  have hrefused {a : Answer} {e : PoolError} (hadmission : s.admission t = .error e)
      (ha : (s.manager.making u.now s.manager.ledger (.lookingUp .get t)).answer
        s.manager.nextTask (.lookingUp .get t) a = s.manager.refusing u.now s.manager.ledger e) :
      Ends s.manager.nextTask (s.Decided t s'.now) (u.step (.resume s.manager.nextTask a)) := by
    have hasked : s.Makes s.manager.ledger (.lookingUp .get t) (s.backend.requests ++ s.asked t)
        u := by
      rwa [asked_of_error hadmission, List.append_nil]
    refine hasked.ends_giveUp hs (verdict_of_error hadmission) ha (.refl _) ?_
    rw [decidedAt_of_error hadmission, hnow]
  cases hr : (s.directory.get t).1 with
  | error cause =>
    rw [hr] at hadmission
    exact hrefused hadmission (hs.fresh.giveUp_making _)
  | ok record =>
    rw [hr] at hadmission
    by_cases hactive : record.status = .active
    · simp only [if_pos hactive] at hadmission
      have ha := s.manager.answer_tenant_making u.now s.manager.ledger t hactive
      have hnow₂ := hmakes.now_resume ha
      rw [← hnow, ← hnow₂]
      exact (hmakes.resume ha).ends_opening hs hadmission hidle ht hopen hdelay htimeout
        (by rw [hnow₂])
    · simp only [if_neg hactive] at hadmission
      exact hrefused hadmission (hs.fresh.answer_inactive_making _ _ t hactive)

end Makes

/-- A request for the pool of a tenant that has none is decided, however long the directory takes to
answer it. -/
theorem Sound.ends_decided (hs : s.Sound) (ht : s.manager.entries.get? t = none)
    (hdelay : 1000000 ∣ s.backend.openDelay.nanos)
    (htimeout : 1000000 ∣ s.manager.config.connectTimeout.nanos) (wait : Nat) :
    Ends s.manager.nextTask (s.Decided t (s.now + wait))
      ((s.step (.call (.get t))).step (.advance wait)) := by
  have hfirst := Manager.step_get hs.fresh ht
  obtain ⟨u, hu⟩ : ∃ u, u = (s.step (.call (.get t))).step (.advance wait) := ⟨_, rfl⟩
  rw [← hu]
  have hmanager : u.manager = { s.manager.step (.call (.get t)) with
      now := (s.manager.step (.call (.get t))).now + wait } := hu ▸ rfl
  have hrefused {e : PoolError} (hadmission : s.admission t = .error e)
      (hm : s.manager.step (.call (.get t)) = s.manager.refusing s.now s.manager.ledger e) :
      Ends s.manager.nextTask (s.Decided t (s.now + wait)) u := by
    have hnow : u.now = s.now + wait := by
      rw [now, hmanager, hm]
      rfl
    refine hs.ends_refused (verdict_of_error hadmission) ?_ (.refl _) ?_ ?_
    · rw [hnow, hmanager, hm]
      rfl
    · rw [asked_of_error hadmission, List.append_nil, hu]
      rfl
    · rw [hnow, decidedAt_of_error hadmission]
  by_cases hshut : s.manager.shuttingDown = true
  · rw [if_pos hshut] at hfirst
    exact hrefused (by simp only [admission, if_pos hshut]) hfirst
  by_cases hfull : 0 < s.manager.config.maxPools ∧ s.manager.config.maxPools ≤ s.manager.slots
  · rw [if_neg hshut, if_pos hfull] at hfirst
    exact hrefused (by simp only [admission, if_neg hshut, if_pos hfull]) hfirst
  rw [if_neg hshut, if_neg hfull] at hfirst
  have hnow : u.now = s.now + wait := by
    rw [now, hmanager, hfirst]
    rfl
  have hmakes : s.Makes s.manager.ledger (.lookingUp .get t) s.backend.requests u := by
    refine ⟨?_, ?_⟩
    · rw [hnow, hmanager, hfirst]
      rfl
    · rw [hu]
      rfl
  have hidle : u.pending.get? s.manager.nextTask = none := hu ▸ hs.pending_nextTask
  have hdirectory : u.directory = s.directory := hu ▸ rfl
  rw [← hnow]
  exact hmakes.ends_lookingUp hs hidle hdirectory ht (by simpa using hshut) hfull hdelay htimeout

/-- No request ends before the time at which it is decided. -/
lemma Sound.not_ends_before {wait bound : Nat} (hs : s.Sound)
    (ht : s.manager.entries.get? t = none) (hdelay : 1000000 ∣ s.backend.openDelay.nanos)
    (htimeout : 1000000 ∣ s.manager.config.connectTimeout.nanos)
    (hlt : bound < s.decidedAt t (s.now + wait)) :
    ¬Ends s.manager.nextTask (·.now ≤ bound)
      ((s.step (.call (.get t))).step (.advance wait)) := by
  intro hclaim
  obtain ⟨s', hle, hdecided⟩ := (hclaim.and (hs.ends_decided ht hdelay htimeout wait)).exists
  have htime := hdecided.time
  omega

/-- In every state that can be reached, and whatever the backend does, a request for a pool of a
tenant that has none comes to an end, as long as nobody else acts: with the verdict, and without
leaving anything behind if it fails. From when the directory has answered, it takes twice the time
that connecting may take, at most, and the time in which connections are closed that were opened in
vain. If all these are times in whole milliseconds, and nothing takes time to be closed, that is
exact. -/
theorem creation_decided (h : s.Reachable) (ht : s.manager.entries.get? t = none)
    (hdelay : 1000000 ∣ s.backend.openDelay.nanos)
    (htimeout : 1000000 ∣ s.manager.config.connectTimeout.nanos) (wait : Nat) :
    let start := s.now + wait
    let limit := s.manager.config.connectTimeout.nanos
    let latest := answeredAt (tick (start + 2 * limit)) s.backend.closeDelay
    Ends s.manager.nextTask (fun s' => s.Decided t start s' ∧ s'.now ≤ latest)
        ((s.step (.call (.get t))).step (.advance wait)) ∧
      (1000000 ∣ start → s.backend.closeDelay.nanos = 0 → latest = start + 2 * limit) := by
  intro start limit latest
  constructor
  · refine (h.sound.ends_decided ht hdelay htimeout wait).mono fun s' hs' => ⟨hs', ?_⟩
    rw [hs'.time]
    exact decidedAt_le htimeout start
  · intro hwhole hclose
    have hsum : 1000000 ∣ start + 2 * limit := Nat.dvd_add hwhole (Dvd.dvd.mul_left htimeout 2)
    exact (answeredAt_of_zero hclose).trans (tick_of_dvd hsum)

/-- Opening takes as long as connecting may take, and the database refuses the ping. -/
def justInTime : Simulation :=
  { new (.new "app" "secret") (.of Manager.acmeCreated.store) 0 with
    backend :=
      { Backend.new with
        openDelay := .ofSeconds 10
        behaviors := .ofList [("acme_db", .failing)] } }

lemma reachable_justInTime : justInTime.Reachable := (Reachable.new _ _ _).outside _ _ _

lemma admission_justInTime : justInTime.admission "acme" = .ok Manager.acme := by
  have hlookup : (justInTime.directory.get "acme").1 = .ok Manager.acme := by
    have hdirectory : justInTime.directory = .of Manager.acmeCreated.store := rfl
    rw [hdirectory, Directory.get_of, Manager.require_acmeCreated]
  rw [admission, hlookup]
  rfl

/-- Connections that are opened just in time are in time, so that the ping decides: ten seconds
after the directory has answered, for which it takes a second. -/
theorem creation_decided_justInTime :
    justInTime.Reachable ∧ justInTime.manager.entries.get? "acme" = none ∧
      1000000 ∣ justInTime.backend.openDelay.nanos ∧
      1000000 ∣ justInTime.manager.config.connectTimeout.nanos ∧
      justInTime.verdict "acme" = .error (.setup "acme" (.ping (.unreachable "acme_db"))) ∧
      justInTime.decidedAt "acme" 1000000000 = 11000000000 ∧
      Ends 0 (fun s' => justInTime.Decided "acme" 1000000000 s' ∧ s'.now ≤ 21000000000)
        ((justInTime.step (.call (.get "acme"))).step (.advance 1000000000)) := by
  have hdelay : 1000000 ∣ justInTime.backend.openDelay.nanos := by decide +kernel
  have htimeout : 1000000 ∣ justInTime.manager.config.connectTimeout.nanos := by decide +kernel
  have hfault : justInTime.setupFault? Manager.acme =
      some (.ping (.unreachable "acme_db")) := by decide +kernel
  obtain ⟨hends, hlatest⟩ := creation_decided reachable_justInTime rfl hdelay htimeout 1000000000
  rw [hlatest (by decide +kernel) rfl] at hends
  refine ⟨reachable_justInTime, rfl, hdelay, htimeout,
    verdict_of_fault admission_justInTime hfault, ?_, hends⟩
  rw [decidedAt_of_fault admission_justInTime hfault]
  decide +kernel

/-- The same, but the database leaves the ping without an answer. -/
def hangsJustInTime : Simulation :=
  { justInTime with
    backend := { justInTime.backend with behaviors := .ofList [("acme_db", .hanging)] } }

/-- The same, and connections take a second to be closed. -/
def lingersJustInTime : Simulation :=
  { hangsJustInTime with
    backend := { hangsJustInTime.backend with closeDelay := .ofSeconds 1 } }

/-- Twice the time that connecting may take is not enough when the directory takes a second to
answer, nor when connections take a second to be closed; nor is it from when the directory has
answered, if that is between two whole milliseconds. -/
theorem not_ends_inTime_hangsJustInTime :
    hangsJustInTime.Reachable ∧ hangsJustInTime.manager.entries.get? "acme" = none ∧
      hangsJustInTime.manager.config.connectTimeout.nanos = 10000000000 ∧
      hangsJustInTime.backend.closeDelay.nanos = 0 ∧
      ¬Ends 0 (·.now ≤ 2 * 10000000000)
        ((hangsJustInTime.step (.call (.get "acme"))).step (.advance 1000000000)) ∧
      ¬Ends 0 (·.now ≤ 500000 + 2 * 10000000000)
        ((hangsJustInTime.step (.call (.get "acme"))).step (.advance 500000)) ∧
      lingersJustInTime.Reachable ∧ lingersJustInTime.manager.entries.get? "acme" = none ∧
      lingersJustInTime.manager.config.connectTimeout.nanos = 10000000000 ∧
      ¬Ends 0 (·.now ≤ 2 * 10000000000)
        ((lingersJustInTime.step (.call (.get "acme"))).step (.advance 0)) := by
  have hdelay : 1000000 ∣ justInTime.backend.openDelay.nanos := by decide +kernel
  have htimeout : 1000000 ∣ justInTime.manager.config.connectTimeout.nanos := by decide +kernel
  have hhangs : hangsJustInTime.Reachable := reachable_justInTime.outside _ _ _
  have hlingers : lingersJustInTime.Reachable := hhangs.outside _ _ _
  have hsame : hangsJustInTime.admission "acme" = justInTime.admission "acme" :=
    admission_congr rfl rfl
  have hsame' : lingersJustInTime.admission "acme" = justInTime.admission "acme" :=
    admission_congr rfl rfl
  have hadmission := hsame.trans admission_justInTime
  have hadmission' := hsame'.trans admission_justInTime
  have hfault : hangsJustInTime.setupFault? Manager.acme =
      some (.ping (.timeout (.ofSeconds 10))) := by decide +kernel
  have hfault' : lingersJustInTime.setupFault? Manager.acme =
      some (.ping (.timeout (.ofSeconds 10))) := by decide +kernel
  refine ⟨hhangs, rfl, by decide +kernel, by decide +kernel, ?_, ?_, hlingers, rfl,
    by decide +kernel, ?_⟩
  · refine hhangs.sound.not_ends_before rfl hdelay htimeout ?_
    rw [decidedAt_of_fault hadmission hfault]
    decide +kernel
  · refine hhangs.sound.not_ends_before rfl hdelay htimeout ?_
    rw [decidedAt_of_fault hadmission hfault]
    decide +kernel
  · refine hlingers.sound.not_ends_before rfl hdelay htimeout ?_
    rw [decidedAt_of_fault hadmission' hfault']
    decide +kernel

end Simulation

end Tenancy
