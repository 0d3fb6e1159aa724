import Tenancy.Proofs.Manager.Disposal
import Tenancy.Proofs.Manager.LivePool

/-!
# The request that shuts the manager down

The request that shuts the manager down waits for the loops, and then closes the pools that it finds
in use. No other pool comes into use meanwhile, so that there are none when the request has ended:
`Closing.step` says what it still has to do after every event, and `Closing.isDown` what is left at
the end.
-/

namespace Tenancy.Manager

variable {m m₁ m' : Manager} {task k : TaskId} {o : Origin} {e : Event} {s : Stage}

/-! ### The request that shuts the manager down -/

/-- Whether a task can come to shut the manager down here. -/
def Origin.mayClose : Origin → Bool
  | .call .close | .call (.drain _) | .stage (.draining _ _) => true
  | _ => false

/-- With an event a request to close or to drain shuts the manager down, which was not done yet. -/
structure Performs (m : Manager) (e : Event) (k : TaskId) : Prop where
  before : m.closed = false
  after : (m.step e).closed = true
  reached : ∃ o, e.origin? m = some (k, o) ∧ o.mayClose = true

/-- What the stage of the request says about the pools in use: it waits for the loops, has all of
them still to go through, or has ended and there are none. -/
inductive Covers (entries : Assoc TenantId PoolId) : Option Stage → Prop
  | joining {count} : Covers entries (some (.joining count))
  | closing {t id reason rest count}
      (h : ∀ t' id', entries.get? t' = some id' → (t', id') ∈ rest) :
      Covers entries (some (.closing t id reason (.shutdown rest count)))
  | ended (h : ∀ t, entries.get? t = none) : Covers entries none

/-- The manager is being shut down by a request, or was. -/
structure Closing (m : Manager) (k : TaskId) : Prop where
  down : m.shuttingDown = true
  started : k < m.nextTask
  covers : Covers m.entries (m.tasks.get? k)

lemma Covers.mono {entries entries' : Assoc TenantId PoolId} {s : Option Stage}
    (h : Covers entries s)
    (hmono : ∀ t id, entries'.get? t = some id → entries.get? t = some id) :
    Covers entries' s := by
  cases h with
  | joining => exact .joining
  | closing h => exact .closing fun t id ht => h t id (hmono t id ht)
  | ended h =>
    refine .ended fun t => ?_
    by_contra hne
    obtain ⟨id, hid⟩ := Option.ne_none_iff_exists'.1 hne
    have hsome := (h t).symm.trans (hmono t id hid)
    cases hsome

/-- Going through pools, the request leaves those that it has not come to. -/
lemma covers_closeRest (count : Option Nat) {pools : List (TenantId × PoolId)}
    (h : ∀ t id, m.entries.get? t = some id → (t, id) ∈ pools) :
    Covers (m.closeRest k count pools).entries ((m.closeRest k count pools).tasks.get? k) := by
  induction pools with
  | nil =>
    have hnone : ∀ t, m.entries.get? t = none := by
      intro t
      by_contra hne
      obtain ⟨id, hid⟩ := Option.ne_none_iff_exists'.1 hne
      cases h t id hid
    have htask : (m.closeRest k count []).tasks.get? k = none := by
      cases count <;> simp [closeRest, finishShutdown, finish, leave, Assoc.get?_erase]
    have hentries : (m.closeRest k count []).entries = m.entries := by
      cases count <;> rfl
    rw [htask, hentries]
    exact .ended hnone
  | cons e rest ih =>
    obtain ⟨t, id⟩ := e
    simp only [closeRest]
    split
    next hholds =>
      have htask : (m.beginClose k t id "shutdown" (.shutdown rest count)).tasks.get? k =
          some (.closing t id "shutdown" (.shutdown rest count)) := by
        simp [beginClose, await, Assoc.get?_insert]
      rw [htask]
      refine .closing fun t' id' ht' => ?_
      simp only [beginClose, modifyPool, giveSlot, await, Assoc.get?_erase] at ht'
      split_ifs at ht' with hne
      rcases List.mem_cons.1 (h t' id' ht') with heq | hmem
      · cases heq
        exact absurd rfl hne
      · exact hmem
    next hholds =>
      refine ih fun t' id' ht' => ?_
      rcases List.mem_cons.1 (h t' id' ht') with heq | hmem
      · cases heq
        simp [holds, ht'] at hholds
      · exact hmem

lemma covers_snapshot (count : Option Nat) :
    Covers (m.closeRest k count m.snapshot).entries
      ((m.closeRest k count m.snapshot).tasks.get? k) :=
  covers_closeRest count fun _ _ => Assoc.get?_eq_some_iff.1

lemma closing_awaitLoops (hdown : m.shuttingDown = true) (hlt : k < m.nextTask)
    (count : Option Nat) : Closing (m.awaitLoops k count) k := by
  have hm : Move m k (.call .close) (m.awaitLoops k count) :=
    .of_awaitLoops (.refl m) rfl rfl count
  refine ⟨hm.shuttingDown hdown, hlt.trans_le hm.nextTask_le, ?_⟩
  unfold awaitLoops
  split
  next =>
    rw [get?_await]
    exact .joining
  next => exact covers_snapshot count

lemma closing_beginShutdown (hopen : m.closed = false) (hlt : k < m.nextTask)
    (count : Option Nat) : Closing (m.beginShutdown k count) k := by
  simp only [beginShutdown, hopen, Bool.false_eq_true, if_false]
  exact closing_awaitLoops (m := { m with shuttingDown := true, closed := true }) rfl hlt count

lemma closing_drainRound (hopen : m.closed = false) (hlt : k < m.nextTask) {deadline : Nat}
    (h : (m.drainRound k deadline).closed = true) : Closing (m.drainRound k deadline) k := by
  unfold drainRound at h ⊢
  split at h
  next hdone =>
    rw [if_pos hdone]
    exact closing_beginShutdown hopen hlt _
  next =>
    rw [await, hopen] at h
    cases h

/-- The request starts to close all pools, or to wait for the loops. -/
lemma Performs.closing (hf : m.Fresh) (h : Performs m e k) : Closing (m.step e) k := by
  obtain ⟨hopen, hclosed, o, ho, hmay⟩ := h
  cases Event.Drives.of_origin? ho with
  | call request =>
    have hlt : m.nextTask < m.nextTask + 1 := Nat.lt_succ_self _
    cases request with
    | close =>
      exact closing_beginShutdown (m := { m with nextTask := m.nextTask + 1 }) hopen hlt none
    | drain patience =>
      exact closing_drainRound
        (m := { m with nextTask := m.nextTask + 1, shuttingDown := true }) hopen hlt hclosed
    | _ => cases hmay
  | @resume _ s a hs =>
    rw [step_resume hs] at hclosed ⊢
    cases s with
    | draining deadline wake =>
      have hstay : m.closed ≠ true := by simp [hopen]
      cases a with
      | elapsed =>
        simp only [answer] at hclosed ⊢
        split at hclosed
        next hwake =>
          rw [if_pos hwake]
          exact closing_drainRound hopen (hf _ _ hs) hclosed
        next => exact absurd hclosed hstay
      | _ => exact absurd hclosed hstay
    | _ => cases hmay

/-! ### Until the request is answered -/

/-- No pool comes into use any more. -/
lemma Turn.entries_of_shutDown (h : Turn m e m') (hdown : m.shuttingDown = true) {t : TenantId}
    {id : PoolId} (ht : m'.entries.get? t = some id) : m.entries.get? t = some id := by
  cases h with
  | act _ q _ _ hm =>
    rw [← q.entries]
    exact hm.entries_of_shutDown (q.shuttingDown hdown) ht
  | aside _ q => exact q.entries ▸ ht
  | acquire | release | drop | cancel => exact ht

/-- What the request does when it is told something. -/
lemma Closing.covers_answer (h : Closing m k) (hs : m.tasks.get? k = some s) (a : Answer) :
    Covers (m.answer k s a).entries ((m.answer k s a).tasks.get? k) := by
  have hcovers := h.covers
  have hstay := hcovers
  rw [hs] at hcovers
  cases hcovers with
  | joining =>
    cases a with
    | proceed =>
      simp only [answer]
      split
      next => exact hstay
      next => exact covers_snapshot _
    | _ => exact hstay
  | closing hrest =>
    cases a with
    | closed =>
      simp only [answer, afterClosing_eq]
      exact covers_closeRest _ hrest
    | _ => exact hstay

lemma Closing.step (hf : m.Fresh) (h : Closing m k) (he : e.isCancel = false) :
    Closing (m.step e) k := by
  have ht := Turn.of_step hf e
  refine ⟨ht.shuttingDown h.down, h.started.trans_le ht.nextTask_le, ?_⟩
  by_cases hk : ∃ o, e.origin? m = some (k, o)
  · obtain ⟨o, ho⟩ := hk
    obtain ⟨a, s, rfl, -, hs⟩ := Event.exists_resume ho h.started
    rw [step_resume hs]
    exact h.covers_answer hs a
  · rw [ht.get?_of_not_reached h.started (fun o ho => hk ⟨o, ho⟩) he]
    exact h.covers.mono fun t id => ht.entries_of_shutDown h.down

/-- The manager is shut down, and no pool is in use. -/
structure Down (m : Manager) : Prop where
  down : m.shuttingDown = true
  entries : ∀ t, m.entries.get? t = none

/-- When the request has ended there are no more pools in use. -/
lemma Closing.isDown (h : Closing m k) (hk : m.tasks.get? k = none) : Down m := by
  have hcovers := h.covers
  rw [hk] at hcovers
  cases hcovers with
  | ended hnone => exact ⟨h.down, hnone⟩

lemma Down.turn (ht : Turn m e m') (h : Down m) : Down m' := by
  refine ⟨ht.shuttingDown h.down, fun t => ?_⟩
  by_contra hne
  obtain ⟨id, hid⟩ := Option.ne_none_iff_exists'.1 hne
  have hsome := (h.entries t).symm.trans (ht.entries_of_shutDown h.down hid)
  cases hsome

end Tenancy.Manager
