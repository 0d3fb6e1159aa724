import Tenancy.Proofs.Manager.LivePool
import Tenancy.Proofs.Manager.Once

/-!
# Who says that pools are closed

A task that evicts pools, or checks them all, counts those that it closes, and one that retires a
tenant says whether it has closed a pool. `Counts` is what such a task has said so far, or says in
the end. With every event this goes up by the pools of which the event tells the task that they are
closed, and by no others, `Counts.step`; so in every run it is the number of pools that the task has
closed: `counts_run`. Since no pool is closed twice, one task only has it in its number.
-/

namespace Tenancy.Manager

variable {m m' : Manager} {k j : TaskId} {e : Event} {s : Stage} {t : TenantId} {id : PoolId}
  {n : Nat} {sweeper : Sweeper}

/-! ### Who closes pools -/

/-- The pool of which a task is told that it is closed, with the task. -/
def Event.closer? (m : Manager) : Event → Option (TaskId × PoolId)
  | .resume task a => ((Event.resume task a).closes? m).map (task, ·)
  | _ => none

/-- The pools that tasks have closed, with the tasks, in the order in which they did. -/
def closers (m : Manager) : List Event → List (TaskId × PoolId)
  | [] => []
  | e :: events => (e.closer? m).toList ++ (m.step e).closers events

/-- The pools that a task has closed. -/
def closedBy (m : Manager) (k : TaskId) (events : List Event) : List PoolId :=
  ((m.closers events).filter (·.1 = k)).map Prod.snd

lemma map_closer? (m : Manager) (e : Event) : (e.closer? m).map Prod.snd = e.closes? m := by
  cases e with
  | resume task a =>
    rw [Event.closer?, Option.map_map]
    exact Option.map_id'
  | _ => rfl

lemma map_closers (m : Manager) (events : List Event) :
    (m.closers events).map Prod.snd = m.closings events := by
  induction events generalizing m with
  | nil => rfl
  | cons e rest ih =>
    rw [closers, closings, List.map_append, ih, ← map_closer?]
    cases e.closer? m <;> rfl

lemma closers_append (m : Manager) (events later : List Event) :
    m.closers (events ++ later) = m.closers events ++ (m.run events).closers later := by
  induction events generalizing m with
  | nil => rfl
  | cons e rest ih => rw [List.cons_append, closers, closers, ih, List.append_assoc, run_cons]

lemma closedBy_append (m : Manager) (k : TaskId) (events later : List Event) :
    m.closedBy k (events ++ later) = m.closedBy k events ++ (m.run events).closedBy k later := by
  rw [closedBy, closers_append, List.filter_append, List.map_append]
  rfl

lemma closedBy_singleton (m : Manager) (k : TaskId) (e : Event) :
    m.closedBy k [e] = ((e.closer? m).filter (·.1 = k)).toList.map Prod.snd := by
  rw [closedBy, closers, closers, List.append_nil]
  cases h : e.closer? m with
  | none => rfl
  | some x => by_cases hx : x.1 = k <;> simp [hx, Option.filter]

lemma closedBy_resume (m : Manager) (k : TaskId) (a : Answer) :
    m.closedBy k [.resume k a] = ((Event.resume k a).closes? m).toList := by
  rw [closedBy_singleton, Event.closer?]
  cases (Event.resume k a).closes? m <;> simp

/-- Only the task that an event reaches is told of pools. -/
lemma closedBy_of_not_reached (hk : ∀ o, e.origin? m ≠ some (k, o)) : m.closedBy k [e] = [] := by
  cases e with
  | resume task a =>
    by_cases heq : task = k
    · subst heq
      have hnone : m.tasks.get? task = none := by
        cases hs : m.tasks.get? task with
        | none => rfl
        | some s => exact absurd (by rw [Event.origin?, hs]; rfl) (hk (.stage s))
      rw [closedBy_resume]
      cases a <;> simp [Event.closes?, hnone]
    · rw [closedBy_singleton, Event.closer?]
      cases (Event.resume task a).closes? m <;> simp [heq]
  | _ => rfl

/-- Tasks that close pools were started before. -/
lemma lt_of_mem_closers (hf : m.Fresh) {events : List Event} (h : (k, id) ∈ m.closers events) :
    k < (m.run events).nextTask := by
  induction events using List.reverseRecOn with
  | nil => cases h
  | append_singleton past e ih =>
    have hfresh := hf.run past
    have hle := (Turn.of_step hfresh e).nextTask_le
    rw [run_append]
    rw [closers_append, List.mem_append] at h
    rcases h with hold | hnew
    · exact (ih hold).trans_le hle
    · rw [closers, closers, List.append_nil, Option.mem_toList] at hnew
      cases e with
      | resume task a =>
        obtain ⟨id', hid, heq⟩ := Option.map_eq_some_iff.1 hnew
        cases heq
        cases hs : ((m.run past).tasks.get? k) with
        | none => cases a <;> simp [Event.closes?, hs] at hid
        | some s => exact (hfresh k s hs).trans_le hle
      | _ => cases hnew

lemma closedBy_eq_nil (hf : m.Fresh) (events : List Event) (hle : (m.run events).nextTask ≤ k) :
    m.closedBy k events = [] := by
  rw [closedBy, List.map_eq_nil_iff, List.filter_eq_nil_iff]
  rintro ⟨j, id⟩ hj heq
  exact absurd (of_decide_eq_true heq ▸ lt_of_mem_closers hf hj) (not_lt.2 hle)

lemma nodup_closings (c : Config) (events : List Event) : ((new c).closings events).Nodup := by
  rw [List.nodup_iff_count_le_one]
  intro id
  have := places_add_count_closings_le c events id
  omega

/-- A pool that is closed was closed by one task. -/
lemma existsUnique_closedBy (c : Config) {events : List Event}
    (h : id ∈ (new c).closings events) : ∃! k, id ∈ (new c).closedBy k events := by
  have hnodup := nodup_closings c events
  rw [← map_closers] at hnodup h
  have hmem {k : TaskId} : id ∈ (new c).closedBy k events ↔ (k, id) ∈ (new c).closers events := by
    simp [closedBy]
  obtain ⟨⟨k, id'⟩, hk, heq⟩ := List.mem_map.1 h
  cases heq
  refine ⟨k, hmem.2 hk, fun j hj => ?_⟩
  exact congrArg Prod.fst (List.inj_on_of_nodup_map hnodup (hmem.1 hj) hk rfl)

lemma nodup_closedBy (c : Config) (k : TaskId) (events : List Event) :
    ((new c).closedBy k events).Nodup := by
  refine List.Nodup.sublist (List.filter_sublist.map _) ?_
  rw [map_closers]
  exact nodup_closings c events

/-! ### What tasks say -/

/-- What a task closes pools for that says how many it has closed. -/
inductive Duty
  | eviction (sweeper : Sweeper)
  | check (sweeper : Sweeper)
  | retirement
  deriving DecidableEq, Repr

/-- Whether it is a loop that closes the pools. -/
def Duty.isLoop : Duty → Bool
  | .eviction .loop | .check .loop => true
  | _ => false

/-- What a request closes pools for, if the one who makes it is told how many were closed. -/
def Request.duty? : Request → Option Duty
  | .evict => some (.eviction .caller)
  | .checkHealth => some (.check .caller)
  | .retire _ _ => some .retirement
  | _ => none

/-- How many pools a task has closed, as it has counted them so far. -/
def Stage.account? : Stage → Option (Duty × Nat)
  | .closing _ _ _ (.evict sweeper _ count) => some (.eviction sweeper, count)
  | .closing _ _ _ (.probe sweeper sweep) | .probing sweeper sweep =>
    some (.check sweeper, sweep.closed)
  | .closing _ _ _ .retire => some (.retirement, 0)
  | _ => none

/-- How many pools were closed, as the one who made the request is told. -/
def Outcome.account? : Outcome → Duty → Option Nat
  | .count n, .eviction _ => some n
  | .swept sweep, .check _ => some sweep.closed
  | .retired closed, .retirement => some closed.toNat
  | _, _ => none

/-- A task says that it has closed so many pools: so far, or in the end. -/
inductive Counts (m : Manager) (k : TaskId) (duty : Duty) (n : Nat) : Prop
  | waiting {s : Stage} (hs : m.tasks.get? k = some s) (h : s.account? = some (duty, n))
  | ended {outcome : Outcome} (hs : m.tasks.get? k = none)
      (hout : m.outcomes.get? k = some outcome) (h : outcome.account? duty = some n)

/-- A task goes on to say so, or it is a loop that has ended its round. -/
inductive GoesOn (m : Manager) (k : TaskId) (duty : Duty) (n : Nat) : Prop
  | still (h : Counts m k duty n)
  | rests (hloop : duty.isLoop = true) (h : ∀ s, m.tasks.get? k = some s → s.account? = none)

variable {duty : Duty}

lemma Counts.of_await (h : s.account? = some (duty, n)) : Counts (m.await k s) k duty n :=
  .waiting (get?_await m k s) h

lemma Counts.of_finish {outcome : Outcome} (h : outcome.account? duty = some n) :
    Counts (m.finish k outcome) k duty n := by
  refine .ended ?_ ?_ h
  · simp [finish, leave, Assoc.get?_erase]
  · simp [finish, Assoc.get?_insert]

namespace GoesOn

lemma of_rest (m : Manager) (k : TaskId) (loop : Loop) (hloop : duty.isLoop = true) :
    GoesOn (m.rest k loop) k duty n := by
  refine .rests hloop fun s hs => ?_
  unfold rest at hs
  split at hs
  · simp [leave, Assoc.get?_erase] at hs
  · rw [get?_await] at hs
    cases hs
    rfl

lemma of_evictRest (m : Manager) (k : TaskId) (sweeper : Sweeper) (n : Nat)
    (pools : List (TenantId × PoolId)) :
    GoesOn (m.evictRest k sweeper n pools) k (.eviction sweeper) n := by
  induction pools with
  | nil =>
    cases sweeper with
    | caller => exact .still (.of_finish rfl)
    | loop => exact of_rest m k .eviction rfl
  | cons x rest ih =>
    obtain ⟨t, id⟩ := x
    simp only [evictRest]
    split
    next =>
      split
      next => exact .still (.of_await rfl)
      next => exact ih
    next => exact ih

lemma of_awaitProbes (m : Manager) (k : TaskId) (sweeper : Sweeper) (sweep : HealthSweep) :
    GoesOn (m.awaitProbes k sweeper sweep) k (.check sweeper) sweep.closed := by
  unfold awaitProbes
  split
  next => exact .still (.of_await rfl)
  next =>
    cases sweeper with
    | caller => exact .still (.of_finish rfl)
    | loop => exact of_rest m k .health rfl

/-- To read a report closes no pool, though the pool may now have to be closed. -/
lemma of_noteProbe (m : Manager) (k : TaskId) (sweeper : Sweeper) (sweep : HealthSweep)
    (t : TenantId) (id : PoolId) (result : Except PingFault Unit) :
    GoesOn (m.noteProbe k sweeper sweep t id result) k (.check sweeper) sweep.closed := by
  cases result with
  | ok _ =>
    simp only [noteProbe]
    split <;> exact of_awaitProbes _ k sweeper _
  | error fault =>
    simp only [noteProbe]
    split
    next => exact .still (.of_await rfl)
    next => exact of_awaitProbes _ k sweeper _

/-- A task that is told an answer counts the pool that it was told of, if it was. -/
lemma of_answer (hs : m.tasks.get? k = some s) (h : s.account? = some (duty, n)) (a : Answer) :
    GoesOn (m.answer k s a) k duty (n + ((Event.resume k a).closes? m).toList.length) := by
  have hstay : GoesOn m k duty n := .still (.waiting hs h)
  cases s with
  | closing t id reason next =>
    cases a with
    | closed =>
      simp only [Event.closes?, hs, Option.toList_some, List.length_singleton]
      change GoesOn (m.afterClosing k t id reason next) k duty (n + 1)
      rw [afterClosing_eq]
      cases next with
      | evict sweeper rest count =>
        cases h
        exact of_evictRest _ k sweeper (n + 1) rest
      | probe sweeper sweep =>
        cases h
        exact of_awaitProbes _ k sweeper { sweep with closed := sweep.closed + 1 }
      | retire =>
        cases h
        exact .still (.of_finish rfl)
      | _ => cases h
    | _ => exact hstay
  | probing sweeper sweep =>
    cases h
    cases a with
    | proceed =>
      simp only [answer, absorbProbe]
      split
      next t id result _ => exact of_noteProbe _ k sweeper sweep t id result
      next => exact hstay
    | closed =>
      simp only [Event.closes?, hs]
      exact hstay
    | _ => exact hstay
  | _ => cases h

/-- A request begins with no pool closed. -/
lemma of_call {r : Request} (h : r.duty? = some duty) : GoesOn (m.call r) m.nextTask duty 0 := by
  cases r with
  | evict =>
    cases h
    exact of_evictRest _ _ .caller 0 _
  | checkHealth =>
    cases h
    exact of_awaitProbes _ _ .caller .zero
  | retire t reason =>
    cases h
    simp only [call, admitRequest, beginRetirement]
    split
    next => exact .still (.of_await rfl)
    next => exact .still (.of_finish rfl)
  | _ => cases h

/-- So does a loop that begins another round. -/
lemma of_beginRound (m : Manager) (k : TaskId) (loop : Loop) :
    ∃ duty, GoesOn (m.beginRound k loop) k duty 0 := by
  cases loop with
  | eviction => exact ⟨_, of_evictRest m k .loop 0 m.snapshot⟩
  | health => exact ⟨_, of_awaitProbes _ k .loop .zero⟩

lemma counts (h : GoesOn m k duty n) (hcaller : duty.isLoop = false) : Counts m k duty n := by
  cases h with
  | still h => exact h
  | rests hloop => exact absurd hloop (by rw [hcaller]; exact Bool.false_ne_true)

end GoesOn

/-- The task has been cancelled. -/
def Cancelled (m : Manager) (k : TaskId) : Prop :=
  m.tasks.get? k = none ∧ m.outcomes.get? k = none

lemma Cancelled.step (hf : m.Fresh) (hlt : k < m.nextTask) (h : Cancelled m k) (e : Event) :
    Cancelled (m.step e) k ∧ m.closedBy k [e] = [] := by
  have ht := Turn.of_step hf e
  have hk := Event.origin?_ne_of_ended (e := e) hlt h.1
  refine ⟨⟨?_, (ht.outcomes_of_not_reached hk).trans h.2⟩, closedBy_of_not_reached hk⟩
  cases hs : (m.step e).tasks.get? k with
  | none => rfl
  | some s => exact h.1.symm.trans (ht.get?_before hlt hk hs) |>.symm

/-- No task that counts pools was started by another one. -/
lemma Stage.parent?_of_account? (h : s.account? = some (duty, n)) : s.parent? = none := by
  cases s with
  | closing t id reason next => cases next <;> first | rfl | cases h
  | probing => rfl
  | _ => cases h

/-- A task that no other one has started stays as it is with an event that does not reach it, unless
the task is cancelled. -/
lemma get?_step_of_parent?_eq_none (hf : m.Fresh) (hlt : k < m.nextTask)
    (hk : ∀ o, e.origin? m ≠ some (k, o)) (hs : m.tasks.get? k = some s)
    (hparent : s.parent? = none) :
    (m.step e).tasks.get? k = some s ∨ (m.step e).tasks.get? k = none ∧ e = .cancel k := by
  have ht := Turn.of_step hf e
  cases hs' : (m.step e).tasks.get? k with
  | some s' => exact .inl ((ht.get?_before hlt hk hs').symm.trans hs)
  | none =>
    refine .inr ⟨rfl, ?_⟩
    cases e with
    | cancel task =>
      by_contra hne
      have hother : k ≠ task := fun heq => hne (heq ▸ rfl)
      have hkept : (m.cancel task).tasks.get? k = some s := by
        unfold Manager.cancel
        split
        next =>
          split
          next => exact hs
          next => simp [Assoc.get?_filter, hs, hother, hparent]
        next => exact hs
      rw [Manager.step, hkept] at hs'
      cases hs'
    | _ =>
      have hsame := ht.get?_of_not_reached hlt hk rfl
      rw [hs, hs'] at hsame
      cases hsame

/-- With every event the number goes up by the pools of which the task is told that they are closed,
unless the task is cancelled. -/
theorem Counts.step (hr : Regular m) (hlt : k < m.nextTask) (h : Counts m k duty n) (e : Event) :
    GoesOn (m.step e) k duty (n + (m.closedBy k [e]).length) ∨
      Cancelled (m.step e) k ∧ e = .cancel k := by
  have ht := Turn.of_step hr.fresh e
  by_cases hk : ∃ o, e.origin? m = some (k, o)
  · obtain ⟨o, ho⟩ := hk
    obtain ⟨a, s, rfl, -, hs⟩ := Event.exists_resume ho hlt
    left
    rw [closedBy_resume, step_resume hs]
    cases h with
    | waiting hs' h =>
      rw [hs] at hs'
      cases hs'
      exact .of_answer hs h a
    | ended hs' =>
      rw [hs] at hs'
      cases hs'
  · have hk : ∀ o, e.origin? m ≠ some (k, o) := fun o ho => hk ⟨o, ho⟩
    have hout := ht.outcomes_of_not_reached hk
    rw [closedBy_of_not_reached hk]
    cases h with
    | @waiting s hs h =>
      have hparent := Stage.parent?_of_account? h
      rcases get?_step_of_parent?_eq_none hr.fresh hlt hk hs hparent with hs' | ⟨hs', hcancel⟩
      · exact .inl (.still (.waiting hs' h))
      · exact .inr ⟨⟨hs', hout.trans (hr.pending k s hs)⟩, hcancel⟩
    | ended hs hout' h =>
      refine .inl (.still (.ended ?_ (hout.trans hout') h))
      cases hs' : (m.step e).tasks.get? k with
      | none => rfl
      | some s => exact (hs.symm.trans (ht.get?_before hlt hk hs')).symm

/-! ### Every run -/

lemma lt_nextTask_of_origin? (hf : m.Fresh) {o : Origin} (ho : e.origin? m = some (k, o)) :
    k < (m.step e).nextTask := by
  obtain ⟨m₀, -, hlt, -, hmove⟩ := Move.of_step hf ho
  exact hlt.trans_le hmove.nextTask_le

/-- In every run, whoever asks for pools to be closed and is told how many were has been told right,
and so far the number is right too, unless the task was cancelled. -/
theorem counts_run (c : Config) {past : List Event} {r : Request}
    (h : (k, r) ∈ (new c).requests past) (hd : r.duty? = some duty) :
    Counts ((new c).run past) k duty ((new c).closedBy k past).length ∨
      Cancelled ((new c).run past) k ∧ .cancel k ∈ past := by
  have hcaller : duty.isLoop = false := by cases r <;> cases hd <;> rfl
  suffices k < ((new c).run past).nextTask ∧
      (Counts ((new c).run past) k duty ((new c).closedBy k past).length ∨
        Cancelled ((new c).run past) k ∧ .cancel k ∈ past) from this.2
  induction past using List.reverseRecOn with
  | nil => cases h
  | append_singleton past e ih =>
    have hr : Regular ((new c).run past) := (Regular.new c).run past
    have hle := (Turn.of_step hr.fresh e).nextTask_le
    rw [requests_concat, List.mem_append, Option.mem_toList] at h
    rw [run_append, closedBy_append, List.length_append]
    rcases h with hold | hnew
    · obtain ⟨hlt, ih⟩ := ih hold
      refine ⟨hlt.trans_le hle, ?_⟩
      rcases ih with hcounts | ⟨hcancelled, hmem⟩
      · rcases hcounts.step hr hlt e with hgoes | ⟨hcancelled, rfl⟩
        · exact .inl (hgoes.counts hcaller)
        · exact .inr ⟨hcancelled, by simp⟩
      · exact .inr ⟨(hcancelled.step hr.fresh hlt e).1, by simp [hmem]⟩
    · cases e with
      | call request =>
        cases hnew
        have hnone : (new c).closedBy ((new c).run past).nextTask past = [] :=
          closedBy_eq_nil (fresh_new c) past le_rfl
        rw [hnone]
        have hlt := lt_nextTask_of_origin? (e := .call r) hr.fresh rfl
        exact ⟨hlt, .inl ((GoesOn.of_call hd).counts hcaller)⟩
      | _ => cases hnew

end Tenancy.Manager
