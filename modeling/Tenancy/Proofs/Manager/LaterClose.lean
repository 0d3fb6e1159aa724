import Tenancy.Proofs.Manager.Course
import Tenancy.Proofs.Manager.Drain

/-!
# Requests to close that come later

The first request to close waits for the loops and closes all pools. One that comes later ends at
once, `Manager.beginShutdown`, whatever the first one has still to do. `shut_iff_of_returns` says
what there is when any of them ends: all is shut if the first one has ended, and no other task still
closes a pool.
-/

namespace Tenancy.Manager

variable {m m' : Manager} {task j k : TaskId} {o : Origin} {e : Event} {s : Stage} {id : PoolId}
  {events : List Event}

/-! ### Statements -/

/-- With an event a request to close or to drain has ended. -/
structure Returns (m : Manager) (e : Event) (k : TaskId) : Prop where
  reached : ∃ o, e.origin? m = some (k, o) ∧ o.shutsDown = true
  ended : (m.step e).tasks.get? k = none

/-- A pool was in use when the manager was shut down. -/
def WasInUse (m : Manager) (events : List Event) (id : PoolId) : Prop :=
  ∃ past e rest, events = past ++ e :: rest ∧ (m.run past).shuttingDown = false ∧
    ((m.run past).step e).shuttingDown = true ∧ ∃ t, (m.run past).entries.get? t = some id

/-- The loops have ended, no pool is in use, and the connections of those pools are closed that are
given. -/
structure Shut (m : Manager) (given : PoolId → Prop) : Prop where
  loops : m.hasLoops = false
  entries : ∀ t, m.entries.get? t = none
  connections : ∀ id, given id → ∃ c, m.connectionsOf id = some c ∧ m.ledger.isClosed c = true

/-- Whenever a request to close or to drain ends, all is shut. -/
def EveryCloseWaits (c : Config) (events : List Event) : Prop :=
  ∀ past e rest k, events = past ++ e :: rest → Returns ((new c).run past) e k →
    Shut ((new c).run (past ++ [e])) (WasInUse (new c) (past ++ [e]))

/-! ### The end of the loops -/

lemma hasLoops_iff : m.hasLoops = true ↔ ∃ k s, m.tasks.get? k = some s ∧ s.isLoop = true := by
  simp only [hasLoops, List.any_eq_true, Prod.exists, Assoc.get?_eq_some_iff]

/-- Loops are started only by a request to start them, before the manager is shut down. -/
lemma Course.hasLoops (c : Course m task o m') (hl : o.isLoop = true → m.hasLoops = true)
    (hstart : o = .call .start → m.shuttingDown = true) (h : m'.hasLoops = true) :
    m.hasLoops = true := by
  obtain ⟨k, s, hs, hloop⟩ := hasLoops_iff.1 h
  rcases c.tasks k s hs with hold | ⟨-, hsucc⟩ | hstarted
  · exact hasLoops_iff.2 ⟨k, s, hold, hloop⟩
  · exact hl (hsucc.loop hloop)
  · cases hstarted with
    | warm | probe => cases hloop
    | loop ho hopen =>
      rw [hstart ho] at hopen
      cases hopen

lemma hasLoops_step (hdown : m.shuttingDown = true) (he : e.isCancel = false)
    (h : (m.step e).hasLoops = true) : m.hasLoops = true := by
  cases ho : e.origin? m with
  | none =>
    rwa [hasLoops_iff, (tasks_of_unreached ho he).1, ← hasLoops_iff] at h
  | some reached =>
    obtain ⟨task, o⟩ := reached
    refine (Course.of_step ho).hasLoops (fun hl => ?_) (fun _ => hdown) h
    cases Event.Drives.of_origin? ho with
    | call => cases hl
    | resume a hs => exact hasLoops_iff.2 ⟨_, _, hs, hl⟩

/-- If there are loops, a request waits for their end. -/
def Joins (m : Manager) (k : TaskId) : Prop :=
  m.hasLoops = true → ∃ count, m.tasks.get? k = some (.joining count)

lemma joins_awaitLoops (hclosed : m.closed = true) (k : TaskId) (count : Option Nat) :
    (m.awaitLoops k count).Joins k := by
  unfold awaitLoops
  split
  next => exact fun _ => ⟨count, get?_await m k _⟩
  next hnone =>
    intro h
    have c := Course.of_closeRest (Prior.refl m k (.stage (.joining count))) rfl (.inl hclosed)
      count m.snapshot
    exact absurd (c.hasLoops nofun nofun h) hnone

lemma joins_beginShutdown (hopen : m.closed = false) (k : TaskId) (count : Option Nat) :
    (m.beginShutdown k count).Joins k := by
  simp only [beginShutdown, hopen, Bool.false_eq_true, if_false]
  exact joins_awaitLoops rfl k count

lemma joins_drainRound (hopen : m.closed = false) {deadline : Nat}
    (h : (m.drainRound k deadline).closed = true) : (m.drainRound k deadline).Joins k := by
  unfold drainRound at h ⊢
  split at h
  next hdone =>
    rw [if_pos hdone]
    exact joins_beginShutdown hopen k _
  next =>
    rw [await, hopen] at h
    cases h

lemma Performs.joins (h : Performs m e k) : (m.step e).Joins k := by
  obtain ⟨hopen, hclosed, o, ho, hmay⟩ := h
  cases Event.Drives.of_origin? ho with
  | call request =>
    cases request with
    | close => exact joins_beginShutdown (m := { m with nextTask := m.nextTask + 1 }) hopen _ none
    | drain patience =>
      exact joins_drainRound
        (m := { m with nextTask := m.nextTask + 1, shuttingDown := true }) hopen hclosed
    | _ => cases hmay
  | @resume _ s a hs =>
    rw [step_resume hs] at hclosed ⊢
    cases s with
    | draining deadline wake =>
      have hstay : m.closed ≠ true := by simp [hopen]
      cases a with
      | elapsed =>
        simp only [answer] at hclosed ⊢
        split at hclosed
        next hwake =>
          rw [if_pos hwake]
          exact joins_drainRound hopen hclosed
        next => exact absurd hclosed hstay
      | _ => exact absurd hclosed hstay
    | _ => cases hmay

/-- A request that waits for the loops does so until they have ended. -/
lemma Joins.step (hf : m.Fresh) (hdown : m.shuttingDown = true) (hlt : k < m.nextTask)
    (h : m.Joins k) (he : e.isCancel = false) : (m.step e).Joins k := by
  intro hloops
  have hbefore := hasLoops_step hdown he hloops
  obtain ⟨count, hk⟩ := h hbefore
  refine ⟨count, ?_⟩
  by_cases hreached : ∃ o, e.origin? m = some (k, o)
  · obtain ⟨o, ho⟩ := hreached
    obtain ⟨a, s, rfl, -, hs⟩ := Event.exists_resume ho hlt
    rw [hk] at hs
    cases hs
    rw [step_resume hk]
    cases a with
    | proceed => simp only [answer, hbefore, if_true, hk]
    | _ => exact hk
  · rw [(Turn.of_step hf e).get?_of_not_reached hlt (fun o ho => hreached ⟨o, ho⟩) he, hk]

/-! ### The first request -/

/-- The manager was closed by one of the requests. -/
lemma exists_performs (c : Config) (h : ∀ e ∈ events, e.isCancel = false)
    (hclosed : ((new c).run events).closed = true) :
    ∃ past e rest j, events = past ++ e :: rest ∧ Performs ((new c).run past) e j := by
  induction events using List.reverseRecOn with
  | nil => cases hclosed
  | append_singleton past e ih =>
    rw [run_append] at hclosed
    cases hbefore : ((new c).run past).closed with
    | true =>
      obtain ⟨past', e', rest, j, heq, hp⟩ := ih (fun e he => h e (by simp [he])) hbefore
      exact ⟨past', e', rest ++ [e], j, by simp [heq], hp⟩
    | false =>
      cases ho : e.origin? ((new c).run past) with
      | none =>
        have hsame := (tasks_of_unreached ho (h e (by simp))).2.2
        rw [hbefore] at hsame
        exact absurd (hsame.symm.trans hclosed) (by simp)
      | some reached =>
        obtain ⟨j, o⟩ := reached
        refine ⟨past, e, [], j, rfl, hbefore, hclosed, o, ho, ?_⟩
        rcases (Course.of_step ho).closed hclosed with hold | hmay
        · rw [hbefore] at hold
          cases hold
        · exact hmay

/-- Where a task closes all pools the manager is closed. -/
def ClosesAfter (m : Manager) : Prop :=
  ∀ k s, m.tasks.get? k = some s → s.closesAll = true → m.closed = true

lemma ClosesAfter.step (h : m.ClosesAfter) (he : e.isCancel = false) :
    (m.step e).ClosesAfter := by
  intro k s hs hall
  cases ho : e.origin? m with
  | none =>
    obtain ⟨htasks, -, hclosed⟩ := tasks_of_unreached ho he
    rw [htasks] at hs
    exact hclosed.trans (h k s hs hall)
  | some reached =>
    obtain ⟨task, o⟩ := reached
    have c := Course.of_step ho
    by_cases hk : k = task
    · subst hk
      rcases c.shuts s hs hall with hclosed | hbefore
      · exact hclosed
      · cases Event.Drives.of_origin? ho with
        | call => cases hbefore
        | resume a hs' => exact c.closed_mono (h k _ hs' hbefore)
    · rcases c.tasks k s hs with hold | ⟨heq, -⟩ | hstarted
      · exact c.closed_mono (h k s hold hall)
      · exact absurd heq hk
      · cases hstarted <;> cases hall

lemma closesAfter_run (c : Config) (h : ∀ e ∈ events, e.isCancel = false) :
    ((new c).run events).ClosesAfter := by
  induction events using List.reverseRecOn with
  | nil =>
    intro k s hs
    cases hs
  | append_singleton past e ih =>
    rw [run_append]
    exact (ih fun e' he' => h e' (by simp [he'])).step (h e (by simp))

/-- Unless a drain goes on to wait, it has closed the manager. -/
lemma closed_drainRound {deadline : Nat} (h : (m.drainRound k deadline).tasks.get? k = none) :
    (m.drainRound k deadline).closed = true := by
  unfold drainRound at h ⊢
  split at h
  next hdone =>
    rw [if_pos hdone]
    exact (beginShutdown_flags m k _).2
  next =>
    rw [get?_await] at h
    cases h

/-- When a request to close or to drain has ended the manager is closed. -/
lemma Returns.closed (hall : m.ClosesAfter) (h : Returns m e k) : (m.step e).closed = true := by
  obtain ⟨⟨o, ho, hdown⟩, hended⟩ := h
  cases Event.Drives.of_origin? ho with
  | call request =>
    cases request with
    | close => exact (beginShutdown_flags { m with nextTask := m.nextTask + 1 } _ none).2
    | drain patience => exact closed_drainRound hended
    | _ => cases hdown
  | @resume _ s a hs =>
    have hmono := (Course.of_step ho).closed_mono
    rw [step_resume hs] at hended hmono ⊢
    have hstay : m.tasks.get? k ≠ none := by simp [hs]
    cases s with
    | draining deadline wake =>
      cases a with
      | elapsed =>
        simp only [answer] at hended ⊢
        split at hended
        next hwake =>
          rw [if_pos hwake]
          exact closed_drainRound hended
        next => exact absurd hended hstay
      | _ => exact absurd hended hstay
    | joining count => exact hmono (hall k _ hs rfl)
    | closing t id reason next =>
      cases next with
      | shutdown pools count => exact hmono (hall k _ hs rfl)
      | _ => cases hdown
    | _ => cases hdown

/-! ### When a request ends -/

/-- Until the first request has ended it goes on to wait for the loops, and to close pools. -/
lemma Performs.run (hf : m.Fresh) (h : Performs m e j)
    (hevents : ∀ e ∈ events, e.isCancel = false) :
    Closing ((m.step e).run events) j ∧ ((m.step e).run events).Joins j := by
  induction events using List.reverseRecOn with
  | nil => exact ⟨h.closing hf, h.joins⟩
  | append_singleton past e' ih =>
    obtain ⟨hclosing, hjoins⟩ := ih fun e he => hevents e (by simp [he])
    have hf' := (hf.step e).run past
    rw [run_append]
    exact ⟨hclosing.step hf' (hevents e' (by simp)),
      hjoins.step hf' hclosing.down hclosing.started (hevents e' (by simp))⟩

/-- A pool that was in use still has its connections. -/
lemma WasInUse.exists_connections {c : Config} (h : WasInUse (new c) events id) :
    ∃ connections, ((new c).run events).connectionsOf id = some connections := by
  obtain ⟨past, e, rest, rfl, -, -, t, ht⟩ := h
  have hlt := (mapped_run c past).lt_length ht
  have hlength : id < ((new c).run (past ++ e :: rest)).pools.length := by
    rw [run_append]
    have hf := (fresh_new c).run past
    generalize (new c).run past = m at hlt hf ⊢
    refine run_induction (I := fun m => id < m.pools.length) (A := fun _ => True) ?_ hf hlt
      fun _ _ => trivial
    exact fun ht _ hid _ => hid.trans_le ht.length_pools_le
  exact ⟨_, by rw [connectionsOf, List.getElem?_eq_getElem hlength]; rfl⟩

/-- When a request to close or to drain ends, all is shut just if no task still closes a pool that
was in use at the shutdown, and the request which shut the manager down has ended, or there is
nothing left for it to do. -/
theorem shut_iff_of_returns (c : Config) (past : List Event) (e : Event) (k : TaskId)
    (h : ∀ e' ∈ past ++ [e], e'.isCancel = false) (hk : Returns ((new c).run past) e k) :
    let m := (new c).run (past ++ [e])
    let given := WasInUse (new c) (past ++ [e])
    ∃ before first after j, past ++ [e] = before ++ first :: after ∧
      Performs ((new c).run before) first j ∧
      (m.tasks.get? j = none → m.hasLoops = false ∧ ∀ t, m.entries.get? t = none) ∧
      (Shut m given ↔
        (m.tasks.get? j = none ∨ m.hasLoops = false ∧ ∀ t, m.entries.get? t = none) ∧
        ∀ id, given id → ∀ task t reason next,
          m.tasks.get? task ≠ some (.closing t id reason next)) := by
  intro m given
  have hpast : ∀ e' ∈ past, e'.isCancel = false := fun e' he' => h e' (by simp [he'])
  have hclosed : m.closed = true := by
    have hrun : m = ((new c).run past).step e := run_append _ past [e]
    exact hrun ▸ hk.closed (closesAfter_run c hpast)
  obtain ⟨before, first, after, j, heq, hp⟩ := exists_performs c h hclosed
  have hm : m = (((new c).run before).step first).run after := by
    rw [← run_cons, ← run_append, ← heq]
  have hafter : ∀ e' ∈ after, e'.isCancel = false := fun e' he' => h e' (by simp [heq, he'])
  obtain ⟨hclosing, hjoins⟩ := hp.run ((fresh_new c).run before) hafter
  rw [← hm] at hclosing hjoins
  have hdone (hj : m.tasks.get? j = none) :
      m.hasLoops = false ∧ ∀ t, m.entries.get? t = none := by
    refine ⟨?_, (hclosing.isDown hj).entries⟩
    cases hloops : m.hasLoops with
    | false => rfl
    | true =>
      obtain ⟨count, hcount⟩ := hjoins hloops
      rw [hj] at hcount
      cases hcount
  refine ⟨before, first, after, j, heq, hp, hdone, ?_, ?_⟩
  · -- The connections of a pool that a task closes are still open.
    rintro ⟨hloops, hentries, hconnections⟩
    refine ⟨.inr ⟨hloops, hentries⟩, fun id hid task t reason next htask => ?_⟩
    obtain ⟨connections, hof, hclosed⟩ := hconnections id hid
    have hheld : connections ∈ m.held :=
      List.mem_append_right _ (Assoc.mem_collect.2 ⟨task, _, htask, hof⟩)
    have hopen := Ledger.mem_openIds.1 ((booked_run c h).held.mem_iff.1 hheld)
    rw [hclosed] at hopen
    cases hopen
  · rintro ⟨hend, hnone⟩
    obtain ⟨hloops, hentries⟩ := hend.elim hdone id
    refine ⟨hloops, hentries, fun id hid => ?_⟩
    obtain ⟨connections, hof⟩ := hid.exists_connections
    refine ⟨connections, hof, ?_⟩
    rcases (disposed_run c h id connections hof).2 with hclosed | ⟨t, ht⟩ | htask
    · exact hclosed
    · rw [hentries t] at ht
      cases ht
    · obtain ⟨task, t, reason, next, htask⟩ := htask
      exact absurd htask (hnone id hid task t reason next)

/-! ### A request to close while another waits for a ping -/

/-- A pool is in use, and a check of all pools pings it, which a loop has begun. A request to close
waits for the loops. -/
def closedWhilePinged : List Event :=
  .call (.get "acme") :: acmeOpens 0 ++
    [.call .start, .resume 2 .proceed, .resume 3 .proceed, .advance 60000000000,
      .resume 3 .elapsed, .resume 4 .proceed, .call .close]

/-- The ping is answered, the loops end, and the request closes the pool. -/
def closedAfterPing : List Event :=
  closedWhilePinged ++ [.resume 4 (.pinged (.ok ())), .resume 3 .proceed, .resume 2 .proceed,
    .resume 5 .proceed]

/-- When the first request ends, the pool is closed. -/
theorem shut_closedAfterPing :
    let events := closedAfterPing ++ [.resume 5 .closed]
    (∀ e ∈ events, e.isCancel = false) ∧
    Returns ((new (.new "app" "secret")).run closedAfterPing) (.resume 5 .closed) 5 ∧
    Shut ((new (.new "app" "secret")).run events)
      (WasInUse (new (.new "app" "secret")) events) := by
  intro events
  have h : ∀ e ∈ events, e.isCancel = false := by decide
  have hk : Returns ((new (.new "app" "secret")).run closedAfterPing) (.resume 5 .closed) 5 :=
    ⟨⟨.stage (.closing "acme" 0 "shutdown" (.shutdown [] none)), rfl, rfl⟩, by decide +kernel⟩
  obtain ⟨before, first, after, j, -, -, -, hiff⟩ :=
    shut_iff_of_returns (.new "app" "secret") closedAfterPing (.resume 5 .closed) 5 h hk
  refine ⟨h, hk, hiff.2 ⟨.inr ⟨by decide +kernel, fun t => ?_⟩, ?_⟩⟩
  · have hnone : ((new (.new "app" "secret")).run events).entries = ∅ := by decide +kernel
    exact congrArg (·.get? t) hnone
  · intro id _ task t reason next htask
    have hnone : ((new (.new "app" "secret")).run events).tasks.toList = [] :=
      List.eq_nil_of_length_eq_zero (by decide +kernel)
    rw [Assoc.get?_eq_some_iff, hnone] at htask
    cases htask

/-- The second request ends while the first one still waits: the loops are there, and the pool is in
use. -/
theorem not_everyCloseWaits_closedTwice :
    ¬ EveryCloseWaits (.new "app" "secret") (closedWhilePinged ++ [.call .close]) := by
  intro h
  have hk : Returns ((new (.new "app" "secret")).run closedWhilePinged) (.call .close) 6 :=
    ⟨⟨.call .close, rfl, rfl⟩, by decide +kernel⟩
  have hloops := (h closedWhilePinged (.call .close) [] 6 rfl hk).loops
  exact absurd hloops (by decide +kernel)

end Tenancy.Manager
