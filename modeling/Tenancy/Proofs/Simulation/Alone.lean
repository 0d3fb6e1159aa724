import Tenancy.Proofs.Manager.Cancellation
import Tenancy.Proofs.Manager.Kinship
import Tenancy.Proofs.Manager.Usage
import Tenancy.Simulation.Basic

/-!
# A request by itself

The states that a simulation can be in, however tasks take turns and whatever happens outside, are
`Reachable`. `Alone` is what can happen next while nobody acts but one request and the tasks that it
has started: one of them gets the answer that it waits for, or, when none can go on, the clock jumps
to the next time that one of them waits for. `Ends` says that all runs of this kind come to an end,
and what holds there: `Ends.of_measure` proves it from an invariant, and for a request that starts
no tasks it is enough to see the one step that can come next: `Ends.of_answer`, `Ends.of_silence`.
-/

namespace Tenancy

open Manager (TaskId Stage Answer Request Outcome Event)

/-- Whether something happens from outside, and is not the answer to a task. -/
def Manager.Event.isOutside : Event → Bool
  | .resume _ _ => false
  | _ => true

namespace Simulation

variable {s s' : Simulation} {task k j : TaskId} {stage : Stage} {time : Nat}
  {P : Simulation → Prop}

/-! ### States -/

/-- The states that a simulation can be in. -/
inductive Reachable : Simulation → Prop
  | new (config : Manager.Config) (directory : Directory) (epoch : Nat) :
      Reachable (.new config directory epoch)
  /-- The directory and the backend change, and so does what leases are to be given back. -/
  | outside {s : Simulation} (h : Reachable s) (directory : Directory) (backend : Backend)
      (drops : List (Nat × TaskId)) : Reachable { s with directory, backend, drops }
  /-- Somebody makes a request, uses a pool or gives it back, or time goes on. -/
  | event {s : Simulation} {e : Event} (h : Reachable s) (he : e.isOutside = true) :
      Reachable (s.step e)
  /-- A task asks for what it waits for, and goes on if there is an answer. -/
  | turn {s : Simulation} (h : Reachable s) (task : TaskId) : Reachable (s.turn task 1).1

lemma manager_step (s : Simulation) (e : Event) : (s.step e).manager = s.manager.step e := rfl

/-- What a task gets in one turn. -/
lemma turn_one (s : Simulation) (task : TaskId) :
    (s.turn task 1).1 =
      match s.manager.tasks.get? task with
      | none => s
      | some stage =>
        match s.answer task stage with
        | (s', none) => s'
        | (s', some a) => s'.step (.resume task a) := by
  cases hk : s.manager.tasks.get? task with
  | none => simp [turn, hk]
  | some stage =>
    rcases ha : s.answer task stage with ⟨s', _ | a⟩
    · simp [turn, hk, ha]
    · simp [turn, hk, ha]

lemma turn_of_none (hk : s.manager.tasks.get? task = none) : (s.turn task 1).1 = s := by
  rw [turn_one, hk]

lemma turn_of_answer {a : Answer} (hk : s.manager.tasks.get? task = some stage)
    (ha : s.answer task stage = (s', some a)) : (s.turn task 1).1 = s'.step (.resume task a) := by
  simp [turn_one, hk, ha]

lemma turn_of_silence (hk : s.manager.tasks.get? task = some stage)
    (ha : s.answer task stage = (s', none)) : (s.turn task 1).1 = s' := by
  simp [turn_one, hk, ha]

/-- When a task asks for what it waits for, nothing changes but its own call of the backend. -/
structure Asks (task : TaskId) (s s' : Simulation) : Prop where
  manager : s'.manager = s.manager
  pending : ∀ other, other ≠ task → s'.pending.get? other = s.pending.get? other

namespace Asks

lemma refl (task : TaskId) (s : Simulation) : Asks task s s := ⟨rfl, fun _ _ => rfl⟩

lemma erase (h : Asks task s s') : Asks task s { s' with pending := s'.pending.erase task } := by
  refine ⟨h.manager, fun other hne => ?_⟩
  rw [Assoc.get?_erase, if_neg hne]
  exact h.pending other hne

lemma wait (h : Asks task s s') (delay : Option Duration) : Asks task s (s'.wait task delay) := by
  refine ⟨h.manager, fun other hne => ?_⟩
  rw [Simulation.wait, Assoc.get?_insert, if_neg hne]
  exact h.pending other hne

lemma after (h : Asks task s s') (delay : Duration) (a : Answer) :
    Asks task s (s'.after task delay a).1 := by
  unfold Simulation.after
  split
  · split
    · exact h
    · exact h.wait _
  · split
    · exact h.erase
    · exact h

lemma orElapsed {x : Simulation × Option Answer} (h : Asks task s x.1) (deadline : Nat) :
    Asks task s (Simulation.orElapsed deadline task x).1 := by
  obtain ⟨s', a⟩ := x
  cases a with
  | some a => exact h
  | none =>
    simp only [Simulation.orElapsed]
    split
    · exact h.erase
    · exact h

lemma openFor (s : Simulation) (task : TaskId) (record : Tenant) :
    Asks task s (s.openFor task record).1 := by
  have hrequests (b : Bool) (backend : Backend) :
      Asks task s (if b then s else { s with backend }) := by
    cases b <;> exact ⟨rfl, fun _ _ => rfl⟩
  unfold Simulation.openFor
  simp only
  split
  · exact hrequests _ _
  · exact (hrequests _ _).after _ _

lemma pingFor (s : Simulation) (task : TaskId) (id : ConnectionsId) :
    Asks task s (s.pingFor task id).1 := by
  have hpings : Asks task s { s with backend.pings := s.backend.pings + 1 } :=
    ⟨rfl, fun _ _ => rfl⟩
  unfold Simulation.pingFor
  split
  · simp only
    split
    · exact hpings
    · exact hpings.wait none
  · exact refl task s

theorem answer (s : Simulation) (task : TaskId) (stage : Stage) :
    Asks task s (s.answer task stage).1 := by
  cases stage with
  | lookingUp | listing | updating => exact ⟨rfl, fun _ _ => rfl⟩
  | opening d t record deadline => exact (openFor s task record).orElapsed deadline
  | pinging d t record id deadline => exact (pingFor s task id).orElapsed deadline
  | probePinging parent t pool deadline =>
    refine orElapsed ?_ deadline
    cases s.manager.pools[pool]? with
    | none => exact refl task s
    | some p => exact pingFor s task p.connections
  | rejecting | yielding | closing => exact (refl task s).after _ _
  | draining deadline wake | loopSleeping loop wake => exact (refl task s).orElapsed wake
  | _ => exact refl task s

end Asks

/-- What every state that can be reached is like: the manager is in order, and only tasks that were
started wait for calls of the backend. -/
structure Sound (s : Simulation) : Prop where
  run : ∃ config events, s.manager = (Manager.new config).run events
  pending : ∀ task wake, s.pending.get? task = some wake → task < s.manager.nextTask

namespace Sound

lemma fresh (h : s.Sound) : s.manager.Fresh := by
  obtain ⟨config, events, hrun⟩ := h.run
  exact hrun ▸ (Manager.fresh_new config).run events

lemma kin (h : s.Sound) : s.manager.Kin := by
  obtain ⟨config, events, hrun⟩ := h.run
  exact hrun ▸ Manager.kin_run config events

lemma mapped (h : s.Sound) : Manager.Mapped s.manager.entries s.manager.pools := by
  obtain ⟨config, events, hrun⟩ := h.run
  exact hrun ▸ Manager.mapped_run config events

lemma expectsReports_nextTask (h : s.Sound) :
    s.manager.expectsReports s.manager.nextTask = false := h.kin.expectsReports_nextTask h.fresh

/-- Nobody waits for a call of the backend who was not started. -/
lemma pending_of_le (h : s.Sound) (hle : s.manager.nextTask ≤ task) :
    s.pending.get? task = none := by
  cases hw : s.pending.get? task with
  | none => rfl
  | some wake => exact absurd (h.pending task wake hw) (not_lt.2 hle)

lemma pending_nextTask (h : s.Sound) : s.pending.get? s.manager.nextTask = none :=
  h.pending_of_le le_rfl

lemma step (h : s.Sound) (e : Event) : (s.step e).Sound := by
  refine ⟨?_, fun task wake hw => ?_⟩
  · obtain ⟨config, events, hrun⟩ := h.run
    refine ⟨config, events ++ [e], ?_⟩
    rw [Manager.run_append, ← hrun]
    rfl
  · exact (h.pending task wake hw).trans_le (Manager.Turn.of_step h.fresh e).nextTask_le

lemma asks (h : s.Sound) (hs : s.manager.tasks.get? task = some stage) (ha : Asks task s s') :
    s'.Sound := by
  refine ⟨ha.manager ▸ h.run, fun other wake hw => ?_⟩
  rw [ha.manager]
  by_cases heq : other = task
  · exact heq ▸ h.fresh task stage hs
  · exact h.pending other wake ((ha.pending other heq).symm.trans hw)

end Sound

theorem Reachable.sound (h : s.Reachable) : s.Sound := by
  induction h with
  | new config directory epoch => exact ⟨⟨config, [], rfl⟩, nofun⟩
  | outside _ _ _ _ ih => exact ⟨ih.run, ih.pending⟩
  | @event s e _ _ ih => exact ih.step e
  | @turn s _ task ih =>
    rw [turn_one]
    split
    next => exact ih
    next stage hs =>
      have hasks := Asks.answer s task stage
      split
      next s' heq =>
        rw [heq] at hasks
        exact ih.asks hs hasks
      next s' a heq =>
        rw [heq] at hasks
        exact (ih.asks hs hasks).step _

/-! ### Time -/

lemma le_tick (nanos : Nat) : nanos ≤ tick nanos := by
  rw [tick]
  omega

lemma le_tick_add (nanos delay : Nat) : nanos ≤ tick (nanos + delay) :=
  (Nat.le_add_right nanos delay).trans (le_tick (nanos + delay))

lemma tick_lt (nanos : Nat) : tick nanos < nanos + 1000000 := by
  rw [tick]
  omega

lemma tick_mono {nanos nanos' : Nat} (h : nanos ≤ nanos') : tick nanos ≤ tick nanos' := by
  rw [tick, tick]
  omega

lemma tick_add_of_dvd (nanos : Nat) {delay : Nat} (h : 1000000 ∣ delay) :
    tick (nanos + delay) = tick nanos + delay := by
  obtain ⟨millis, rfl⟩ := h
  rw [tick, tick]
  omega

lemma tick_tick (nanos : Nat) : tick (tick nanos) = tick nanos := by
  rw [tick, tick]
  omega

lemma tick_of_dvd {nanos : Nat} (h : 1000000 ∣ nanos) : tick nanos = nanos := by
  obtain ⟨millis, rfl⟩ := h
  rw [tick]
  omega

lemma now_advanceTo (h : s.now ≤ time) : (s.advanceTo time).now = time :=
  Nat.add_sub_cancel' h

lemma pending_advanceTo (s : Simulation) (time : Nat) :
    (s.advanceTo time).pending = s.pending := rfl

/-- A task no longer waits for a call of the backend. -/
def hangUp (s : Simulation) (task : TaskId) : Simulation :=
  { s with pending := s.pending.erase task }

lemma now_hangUp (s : Simulation) (task : TaskId) : (s.hangUp task).now = s.now := rfl

lemma get?_pending_hangUp : (s.hangUp task).pending.get? task = none := by
  rw [hangUp, Assoc.get?_erase, if_pos rfl]

lemma orElapsed_none (s : Simulation) (task : TaskId) (deadline : Nat) :
    orElapsed deadline task (s, none) =
      if tick deadline ≤ s.now then (s.hangUp task, some .elapsed) else (s, none) := rfl

/-! ### One request and its tasks -/

/-- A task is that of a request, or one that the request has started. -/
def IsOf (s : Simulation) (k j : TaskId) : Prop :=
  j = k ∨ ∃ stage, s.manager.tasks.get? j = some stage ∧ stage.parent? = some k

/-- The next time that one of the tasks of a request waits for. -/
structure IsNextAlarm (s : Simulation) (k : TaskId) (time : Nat) : Prop where
  later : s.now < time
  waited : ∃ j stage, s.IsOf k j ∧ s.manager.tasks.get? j = some stage ∧
    s.alarm? j stage = some time
  least : ∀ j stage other, s.IsOf k j → s.manager.tasks.get? j = some stage →
    s.alarm? j stage = some other → s.now < other → time ≤ other

/-- What can happen while nobody acts but the tasks of one request. -/
inductive Alone (k : TaskId) (s : Simulation) : Simulation → Prop
  /-- One of them goes on. -/
  | turn {j : TaskId} (hj : s.IsOf k j) (hmoves : (s.turn j 1).1 ≠ s) : Alone k s (s.turn j 1).1
  /-- None can go on, and the clock jumps. -/
  | wait {time : Nat} (hrests : ∀ j, s.IsOf k j → (s.turn j 1).1 = s)
      (htime : s.IsNextAlarm k time) : Alone k s (s.advanceTo time)

/-- While nobody acts but the tasks of one request, whatever happens comes to an end, and `P` holds
wherever it does. -/
inductive Ends (k : TaskId) (P : Simulation → Prop) : Simulation → Prop
  | intro {s : Simulation} (next : ∀ s', Alone k s s' → Ends k P s')
      (stop : (¬∃ s', Alone k s s') → P s) : Ends k P s

/-- A measure that gets smaller with all that can happen, as long as an invariant holds. -/
theorem Ends.of_measure {I : Simulation → Prop} (measure : Simulation → Nat)
    (hstep : ∀ s s', I s → Alone k s s' → I s' ∧ measure s' < measure s)
    (hstop : ∀ s, I s → (¬∃ s', Alone k s s') → P s) (hs : I s) : Ends k P s := by
  induction hm : measure s using Nat.strong_induction_on generalizing s with
  | _ n ih =>
    refine .intro (fun s' hnext => ?_) (hstop s hs)
    obtain ⟨hs', hlt⟩ := hstep s s' hs hnext
    exact ih (measure s') (hm ▸ hlt) hs' rfl

lemma Ends.mono {Q : Simulation → Prop} (h : Ends k P s) (hPQ : ∀ s, P s → Q s) : Ends k Q s := by
  induction h with
  | intro _ stop ih => exact .intro ih fun hstop => hPQ _ (stop hstop)

lemma Ends.and {Q : Simulation → Prop} (hP : Ends k P s) (hQ : Ends k Q s) :
    Ends k (fun s' => P s' ∧ Q s') s := by
  induction hP with
  | intro _ stop ih =>
    cases hQ with
    | intro next stop' =>
      exact .intro (fun s' hnext => ih s' hnext (next s' hnext))
        fun hstop => ⟨stop hstop, stop' hstop⟩

lemma Ends.exists (h : Ends k P s) : ∃ s', P s' := by
  induction h with
  | @intro s _ stop ih =>
    by_cases hnext : ∃ s', Alone k s s'
    · obtain ⟨s', hnext⟩ := hnext
      exact ih s' hnext
    · exact ⟨s, stop hnext⟩

/-! ### Requests that start no tasks -/

/-- No task was started by a request. -/
def Childless (s : Simulation) (k : TaskId) : Prop :=
  ∀ j stage, s.manager.tasks.get? j = some stage → stage.parent? ≠ some k

lemma Childless.eq_of_isOf (h : s.Childless k) (hj : s.IsOf k j) : j = k := by
  rcases hj with rfl | ⟨stage, hstage, hparent⟩
  · rfl
  · exact absurd hparent (h j stage hstage)

/-- The next request to come in has started no tasks. -/
lemma Sound.childless (h : s.Sound) : s.Childless s.manager.nextTask :=
  fun _ _ hj => Manager.parent?_ne h.expectsReports_nextTask hj

/-- It is enough to see where the next turn leads. -/
theorem Ends.of_turn (hc : s.Childless k) (h : Ends k P (s.turn k 1).1) : Ends k P s := by
  by_cases hmoves : (s.turn k 1).1 = s
  · rwa [hmoves] at h
  · refine .intro (fun s' hnext => ?_) fun hstop => ?_
    · cases hnext with
      | turn hj _ =>
        rw [hc.eq_of_isOf hj]
        exact h
      | wait hrests _ => exact absurd (hrests k (.inl rfl)) hmoves
    · exact absurd ⟨_, .turn (.inl rfl) hmoves⟩ hstop

/-- If the task is told something, it is enough to see how it goes on. -/
theorem Ends.of_answer {a : Answer} (hc : s.Childless k)
    (hk : s.manager.tasks.get? k = some stage) (ha : s.answer k stage = (s', some a))
    (h : Ends k P (s'.step (.resume k a))) : Ends k P s :=
  .of_turn hc (turn_of_answer hk ha ▸ h)

/-- If the task can only wait, it is enough to see where the clock jumps to. -/
theorem Ends.of_silence (hc : s.Childless k) (hk : s.manager.tasks.get? k = some stage)
    (ha : s.answer k stage = (s', none)) (hagain : s'.answer k stage = (s', none))
    (halarm : s'.alarm? k stage = some time) (hlater : s.now < time)
    (h : Ends k P (s'.advanceTo time)) : Ends k P s := by
  have hmanager : s'.manager = s.manager := by
    have hasks := Asks.answer s k stage
    rw [ha] at hasks
    exact hasks.manager
  have hk' : s'.manager.tasks.get? k = some stage := hmanager ▸ hk
  have hc' : s'.Childless k := fun j => hmanager ▸ hc j
  refine .of_turn hc ?_
  rw [turn_of_silence hk ha]
  have hrests {j : TaskId} (hj : s'.IsOf k j) : (s'.turn j 1).1 = s' := by
    rw [hc'.eq_of_isOf hj]
    exact turn_of_silence hk' hagain
  have htime : s'.IsNextAlarm k time := by
    refine ⟨?_, ⟨k, stage, .inl rfl, hk', halarm⟩, fun j stage' other hj hs ha' _ => ?_⟩
    · rwa [now, hmanager]
    · cases hc'.eq_of_isOf hj
      rw [hk'] at hs
      cases hs
      rw [halarm] at ha'
      cases ha'
      exact le_rfl
  refine .intro (fun s'' hnext => ?_) fun hstop => ?_
  · cases hnext with
    | turn hj hmoves => exact absurd (hrests hj) hmoves
    | @wait other _ hother =>
      obtain ⟨j, stage', hj, hs, ha'⟩ := hother.waited
      cases hc'.eq_of_isOf hj
      rw [hk'] at hs
      cases hs
      rw [halarm] at ha'
      cases ha'
      exact h
  · exact absurd ⟨_, .wait (fun _ => hrests) htime⟩ hstop

/-- A request that has ended does nothing more. -/
theorem Ends.of_ended (hc : s.Childless k) (hk : s.manager.tasks.get? k = none) (h : P s) :
    Ends k P s := by
  refine .intro (fun s' hnext => ?_) fun _ => h
  cases hnext with
  | turn hj hmoves =>
    cases hc.eq_of_isOf hj
    exact absurd (turn_of_none hk) hmoves
  | wait _ htime =>
    obtain ⟨j, stage, hj, hs, -⟩ := htime.waited
    cases hc.eq_of_isOf hj
    rw [hk] at hs
    cases hs

end Simulation

end Tenancy
