import Tenancy.Proofs.Simulation.Alone
import Tenancy.Proofs.Simulation.Secrecy

/-!
# Calls

What a task is answered by the directory and by the backend. A call of the backend that takes time
is answered when it has taken it, or given up at its deadline: `Ends.of_call`.
-/

namespace Tenancy

open Manager (TaskId Stage Answer)

/-- What the backend is asked to open for a tenant. -/
def Manager.Config.requestFor (c : Config) (record : Tenant) : String × OpenSettings :=
  (c.addressOf record, c.openSettings)

namespace Simulation

variable {s s' s₁ : Simulation} {task : TaskId} {record : Tenant} {stage : Stage}
  {database : String} {P : Simulation → Prop}

/-! ### Answers -/

lemma Reachable.resume {k : TaskId} {a : Answer} (h : s.Reachable)
    (hk : s.manager.tasks.get? k = some stage) (ha : s.answer k stage = (s', some a)) :
    (s'.step (.resume k a)).Reachable :=
  turn_of_answer hk ha ▸ h.turn k

lemma Directory.get_of (store : Store) (name : String) :
    (Directory.of store).get name = (store.require name, .of store) := by
  change ((store.require name).map (Directory.of store).named, Directory.of store) = _
  cases store.require name <;> rfl

/-- The backend is asked to open connections. -/
def dialled (s : Simulation) (record : Tenant) : Simulation :=
  { s with
    backend.requests := s.backend.requests ++ [s.manager.config.requestFor record] }

lemma openFor_of_idle (hp : s.pending.get? task = none)
    (hd : Dsn.database? (s.manager.config.addressOf record) = some database) :
    s.openFor task record =
      (s.dialled record).after task s.backend.openDelay
        (.opened (s.backend.opened database s.manager.config.minConnections)) := by
  have hcontains : s.pending.contains task = false := by rw [Assoc.contains, hp]; rfl
  simp only [openFor, hcontains, Bool.false_eq_true, if_false]
  rw [← Manager.Config.addressOf, Backend.database, hd]
  rfl

lemma openFor_of_pending {wake : Option Nat} (hp : s.pending.get? task = some wake)
    (hd : Dsn.database? (s.manager.config.addressOf record) = some database) :
    s.openFor task record =
      s.after task s.backend.openDelay
        (.opened (s.backend.opened database s.manager.config.minConnections)) := by
  have hcontains : s.pending.contains task = true := by rw [Assoc.contains, hp]; rfl
  simp only [openFor, hcontains, if_true]
  rw [← Manager.Config.addressOf, Backend.database, hd]
  rfl

lemma openFor_of_noDatabase (hp : s.pending.get? task = none)
    (hd : Dsn.database? (s.manager.config.addressOf record) = none) :
    s.openFor task record =
      (s.dialled record,
        some (.opened (.error (.noDatabase (s.manager.config.addressOf record))))) := by
  have hcontains : s.pending.contains task = false := by rw [Assoc.contains, hp]; rfl
  simp only [openFor, hcontains, Bool.false_eq_true, if_false]
  rw [← Manager.Config.addressOf, Backend.database, hd]
  rfl

/-! ### Calls that take time -/

/-- A task waits for a call of the backend. -/
def hold (s : Simulation) (task : TaskId) (wake : Option Nat) : Simulation :=
  { s with pending := s.pending.insert task wake }

lemma get?_pending_hold (wake : Option Nat) :
    (s.hold task wake).pending.get? task = some wake := by
  rw [hold, Assoc.get?_insert, if_pos rfl]

lemma advanceTo_now (s : Simulation) : s.advanceTo s.now = s := by
  rw [advanceTo, Nat.sub_self]
  rfl

/-- When a call of the backend that takes so long is answered, if it is made at a time. -/
def answeredAt (time : Nat) (delay : Duration) : Nat :=
  if delay.isZero then time else tick (time + delay.nanos)

section AnsweredAt

variable {time time' : Nat} {delay : Duration}

lemma answeredAt_of_zero (h : delay.nanos = 0) : answeredAt time delay = time :=
  if_pos (decide_eq_true h)

lemma answeredAt_of_ne (h : delay.nanos ≠ 0) :
    answeredAt time delay = tick (time + delay.nanos) :=
  if_neg (mt of_decide_eq_true h)

lemma le_answeredAt (time : Nat) (delay : Duration) : time ≤ answeredAt time delay := by
  by_cases h : delay.nanos = 0
  · rw [answeredAt_of_zero h]
  · rw [answeredAt_of_ne h]
    exact le_tick_add time _

lemma answeredAt_mono (h : time ≤ time') : answeredAt time delay ≤ answeredAt time' delay := by
  by_cases hd : delay.nanos = 0
  · rwa [answeredAt_of_zero hd, answeredAt_of_zero hd]
  · rw [answeredAt_of_ne hd, answeredAt_of_ne hd]
    exact tick_mono (Nat.add_le_add_right h _)

/-- A call that takes no longer than one is willing to wait is answered before that is over. -/
lemma answeredAt_le {limit : Nat} (h : delay.nanos ≤ limit) :
    answeredAt time delay ≤ tick (time + limit) := by
  by_cases hd : delay.nanos = 0
  · rw [answeredAt_of_zero hd]
    exact le_tick_add time _
  · rw [answeredAt_of_ne hd]
    exact tick_mono (Nat.add_le_add_left h _)

end AnsweredAt

/-- A call of the backend that takes time is answered when it has taken it, if that is not after the
deadline; otherwise the task is told at the deadline that it is over. -/
lemma Ends.of_call {k deadline : Nat} (wake : Option Nat) (a : Answer) (hc : s.Childless k)
    (hk : s.manager.tasks.get? k = some stage) (hdeadline : s.now ≤ deadline)
    (hwake : ∀ time ∈ wake, s.now < time)
    (hcall : s.answer k stage = orElapsed deadline k (s₁, none))
    (halarm : s₁.alarm? k stage = wake.merge min (some (tick deadline)))
    (hlater : ∀ time, s.now ≤ time → (s₁.advanceTo time).answer k stage =
      orElapsed deadline k (if wake.any (· ≤ time) then ((s₁.advanceTo time).hangUp k, some a)
        else (s₁.advanceTo time, none)))
    (hanswered : ∀ time ∈ wake, time ≤ tick deadline →
      Ends k P (((s₁.advanceTo time).hangUp k).step (.resume k a)))
    (helapsed : (∀ time ∈ wake, tick deadline < time) →
      Ends k P (((s₁.advanceTo (tick deadline)).hangUp k).step (.resume k .elapsed))) :
    Ends k P s := by
  have hmanager : s₁.manager = s.manager := by
    have hasks := (Asks.answer s k stage).manager
    rw [hcall, orElapsed_none] at hasks
    split at hasks <;> exact hasks
  have hnow : s₁.now = s.now := congrArg Manager.now hmanager
  by_cases hover : s.now = tick deadline
  · have htold : s.answer k stage = (s₁.hangUp k, some .elapsed) := by
      rw [hcall, orElapsed_none, hnow, if_pos hover.ge]
    have hend := helapsed fun time htime => hover ▸ hwake time htime
    rw [← hover, ← hnow, advanceTo_now] at hend
    exact .of_answer hc hk htold hend
  · have hlt : s.now < tick deadline := lt_of_le_of_ne (hdeadline.trans (le_tick _)) hover
    have hsilent : s.answer k stage = (s₁, none) := by
      rw [hcall, orElapsed_none, hnow, if_neg (not_le_of_gt hlt)]
    have hagain : s₁.answer k stage = (s₁, none) := by
      have hany : ¬wake.any (· ≤ s.now) = true := by
        simpa [Option.any_eq_true] using hwake
      have hnext := hlater s.now le_rfl
      rwa [if_neg hany, ← hnow, advanceTo_now, orElapsed_none, hnow,
        if_neg (not_le_of_gt hlt)] at hnext
    have hnext {time : Nat} {a' : Answer} (htime : s.now < time)
        (halarm' : wake.merge min (some (tick deadline)) = some time)
        (htold : (s₁.advanceTo time).answer k stage = ((s₁.advanceTo time).hangUp k, some a'))
        (hend : Ends k P (((s₁.advanceTo time).hangUp k).step (.resume k a'))) : Ends k P s := by
      have htasks : (s₁.advanceTo time).manager.tasks = s.manager.tasks := by
        change s₁.manager.tasks = _
        rw [hmanager]
      refine .of_silence hc hk hsilent hagain (halarm.trans halarm') htime ?_
      refine .of_answer (fun j => htasks ▸ hc j) (htasks ▸ hk) htold hend
    have hadvanced {time : Nat} (htime : s.now ≤ time) : (s₁.advanceTo time).now = time :=
      now_advanceTo (hnow ▸ htime)
    by_cases hearly : ∃ time ∈ wake, time ≤ tick deadline
    · obtain ⟨time, htime, hle⟩ := hearly
      cases htime
      have hlt' := hwake time rfl
      refine hnext hlt' (by simp [hle]) ?_ (hanswered time rfl hle)
      rw [hlater time hlt'.le, if_pos (by simp)]
      rfl
    · have hlate : ∀ time ∈ wake, tick deadline < time := by simpa using hearly
      refine hnext hlt ?_ ?_ (helapsed hlate)
      · cases wake with
        | none => rfl
        | some time => simp [(hlate time rfl).le]
      · rw [hlater (tick deadline) hlt.le,
          if_neg (by simpa [Option.any_eq_true] using hlate), orElapsed_none,
          if_pos (hadvanced hlt.le).ge]

end Simulation

end Tenancy
