import Tenancy.Proofs.Assoc
import Tenancy.Proofs.Numbering.Cluster

/-!
# No number is lost or issued twice

The books of one counter are kept through every run of services that share a store.
`numbers_accounted`: the numbers up to the counter are those that were issued, those that are still
in memory, those that were given up, and those that were taken from the counter itself, each of them
once.
-/

namespace Tenancy.Cluster

variable {c : Cluster} {k : CounterKey} {e : Event} {allowed : Strategy → Prop}

/-! ### What becomes of the numbers -/

/-- What a request of a service for a number means for the numbers of `k`. -/
def drawShare (c : Cluster) (k : CounterKey) (service : Nat) (tenant : TenantId) (s : Sequence)
    (date : Date) : Share :=
  match c.services.get? service, CounterKey.make tenant s date with
  | some n, .ok key => .ofDraw n k key (n.nextValue tenant s date c.counters).1
  | _, _ => .none

/-- What an event means for the numbers of `k`. A service gives up what it has in memory when it is
discarded, when it is told to forget the tenant, and when another period of the series starts. -/
def share (c : Cluster) (k : CounterKey) : Event → Share
  | .start service _ | .discard service => ⟨[], c.heldBy service k, []⟩
  | .nextValue service tenant s date | .nextNumber service tenant s date =>
    c.drawShare k service tenant s date
  | .forget service tenant =>
    if CounterKey.tenantScope tenant <+: k.text.toList then ⟨[], c.heldBy service k, []⟩ else .none
  | .increment text amount =>
    if text = k.text ∧ (c.counters.place.increment text amount).1.isOk then
      ⟨[], [], List.range' (c.counter k + 1) amount⟩
    else .none
  | .peek .. | .override .. | .set .. | .plan .. => .none

/-- What several events mean for the numbers of `k`. -/
def shares (c : Cluster) (k : CounterKey) : List Event → Share
  | [] => .none
  | e :: events => (c.share k e).append ((c.step e).shares k events)

/-! ### All services -/

/-- The numbers that are in memory for a counter in all services but one. -/
def others (c : Cluster) (service : Nat) (k : CounterKey) : List Nat :=
  (c.services.erase service).toList.flatMap fun e => e.2.held k

lemma held_perm (c : Cluster) (service : Nat) (k : CounterKey) :
    (c.held k).Perm (c.heldBy service k ++ c.others service k) := by
  rw [held, heldBy, others]
  cases h : c.services.get? service with
  | none => rw [Assoc.erase_eq_self h, Option.elim_none, List.nil_append]
  | some n => exact (Assoc.perm_cons_erase h).flatMap_right _

lemma held_perm_insert (c : Cluster) (service : Nat) (n : Numbering) (counters : Unreliable Store)
    (k : CounterKey) :
    (held ⟨counters, c.services.insert service n⟩ k).Perm (n.held k ++ c.others service k) := by
  simp only [held, Assoc.toList_insert, List.flatMap_append, List.flatMap_cons, List.flatMap_nil,
    List.append_nil, others]
  exact List.perm_append_comm

/-- What an operation of one service does to the numbers of a counter is what happens to them. -/
lemma balances_serve (service : Nat)
    {operation : Numbering → Unreliable Store → Numbering × Unreliable Store} {share : Share}
    (hsome : ∀ n, c.services.get? service = some n → Balances (c.counter k) (n.held k) share
      ((operation n c.counters).2.counter k) ((operation n c.counters).1.held k))
    (hnone : c.services.get? service = none → share = .none) :
    Balances (c.counter k) (c.held k) share ((c.serve service operation).counter k)
      ((c.serve service operation).held k) := by
  unfold serve
  split
  next h => exact hnone h ▸ .refl _ _
  next n h =>
    have hheld : (c.held k).Perm (n.held k ++ c.others service k) := by
      have := c.held_perm service k
      rwa [heldBy, h] at this
    exact (hsome n h).frame _ hheld (c.held_perm_insert service _ _ k)

/-! ### What every event preserves -/

/-- Whether an event gives the counter a value. -/
def Event.sets (k : CounterKey) : Event → Bool
  | .override _ tenant s date _ =>
    match CounterKey.make tenant s date with
    | .ok key => key = k
    | .error _ => false
  | .set text _ => text = k.text
  | _ => false

lemma counter_write (c : Cluster) (k : CounterKey) (f : Store → Store) :
    (c.write f).counter k = (f c.counters.place).counter k.text := rfl

lemma balances_draw (h : c.Sound allowed) (hk : k.Formed) (service : Nat) (tenant : TenantId)
    (s : Sequence) (date : Date) :
    let c' := c.serve service fun n counters => (n.nextValue tenant s date counters).2
    Balances (c.counter k) (c.held k) (c.drawShare k service tenant s date) (c'.counter k)
      (c'.held k) := by
  refine balances_serve service ?_ ?_
  · intro n hn
    cases hkey : CounterKey.make tenant s date with
    | error e =>
      rw [n.nextValue_snd_of_error hkey, drawShare, hn, hkey]
      exact .refl _ _
    | ok key =>
      rw [drawShare, hn, hkey]
      simp only [n.nextValue_of_make hkey]
      exact (Numbering.Allocated.of_allocate h.answer n key).balances hk (.of_make hkey)
        (h.services hn).1
  · intro hnone
    rw [drawShare, hnone]

lemma balances_step (h : c.Sound allowed) (hk : k.Formed) (he : e.sets k = false) :
    Balances (c.counter k) (c.held k) (c.share k e) ((c.step e).counter k)
      ((c.step e).held k) := by
  cases e with
  | start service strategy =>
    exact (Balances.abandon _ _).frame _ (c.held_perm service k)
      (c.held_perm_insert service (.new strategy) c.counters k)
  | discard service =>
    exact (Balances.abandon _ _).frame _ (c.held_perm service k) (.refl _)
  | nextValue service tenant s date => exact balances_draw h hk service tenant s date
  | nextNumber service tenant s date =>
    rw [step_nextNumber]
    exact balances_draw h hk service tenant s date
  | peek service tenant s date =>
    refine balances_serve service (fun n _ => ?_) fun _ => rfl
    obtain ⟨hn', hp, -⟩ := n.peek_snd tenant s date c.counters
    rw [hn', Unreliable.counter, hp]
    exact .refl _ _
  | override service tenant s date value =>
    refine balances_serve service (fun n _ => ?_) fun _ => rfl
    obtain ⟨-, ⟨-, hn', hp⟩ | ⟨key, hkey, -, hn', hp⟩⟩ :=
      n.override_cases tenant s date value c.counters
    · rw [hn', Unreliable.counter, hp]
      exact .refl _ _
    · have hne : key ≠ k := by simpa [Event.sets, hkey] using he
      have htext : k.text ≠ key.text := fun heq =>
        hne (CounterKey.text_injective hk (.of_make hkey) heq.symm)
      rw [hn', n.held_erase htext, Unreliable.counter, hp, Store.counter_withCounter,
        if_neg htext]
      exact .refl _ _
  | forget service tenant =>
    refine balances_serve service (fun n hn => ?_) fun hnone => ?_
    · simp only [n.held_forget, share, heldBy, hn, Option.elim_some]
      split_ifs
      · exact .abandon _ _
      · exact .refl _ _
    · simp only [share, heldBy, hnone, Option.elim_none]
      split_ifs <;> rfl
  | increment text amount =>
    have hc : (c.step (.increment text amount)).counter k = _ := c.counter_write k _
    rw [hc, share, Store.increment_eq]
    by_cases hmax : Store.maxCounter < c.counters.place.counter text + amount
    · simp only [if_pos hmax, Except.isOk, Except.toBool, Bool.false_eq_true, and_false, if_false]
      exact .refl _ _
    · simp only [if_neg hmax, Except.isOk, Except.toBool, and_true, Store.counter_withCounter]
      by_cases htext : text = k.text
      · subst htext
        simp only [if_true]
        exact .of_add amount (by simp [step, write, held])
      · rw [if_neg htext, if_neg (Ne.symm htext)]
        exact .refl _ _
  | set text value =>
    have htext : k.text ≠ text := fun heq => by simp [Event.sets, heq] at he
    have hc : (c.step (.set text value)).counter k = c.counter k :=
      (Store.counter_withCounter ..).trans (if_neg htext)
    rw [hc]
    exact .refl _ _
  | plan operation cause times => exact .refl _ _

/-! ### Every run -/

lemma balances_run (hk : k.Formed) {events : List Event} (h : c.Sound fun _ => True)
    (hset : ∀ e ∈ events, e.sets k = false) :
    Balances (c.counter k) (c.held k) (c.shares k events) ((c.run events).counter k)
      ((c.run events).held k) := by
  induction events generalizing c with
  | nil => exact .refl _ _
  | cons e rest ih =>
    have hstarts : e.starts fun _ => True := by cases e <;> trivial
    have hstep := balances_step h hk (hset e (by simp))
    exact hstep.trans (ih (h.step hstarts) fun e' he' => hset e' (by simp [he']))

/-! ### Strict services -/

/-- Whether somebody adds to the counter itself. -/
def Event.increments (k : CounterKey) : Event → Bool
  | .increment text _ => text = k.text
  | _ => false

lemma Sound.heldBy_eq_nil (h : c.Sound (· = .strict)) (service : Nat) (k : CounterKey) :
    c.heldBy service k = [] := by
  rw [heldBy]
  cases hn : c.services.get? service with
  | none => rfl
  | some n =>
    obtain ⟨hsound, hstrict⟩ := h.services hn
    exact hsound.held_of_strict hstrict k

lemma Sound.held_eq_nil (h : c.Sound (· = .strict)) (k : CounterKey) : c.held k = [] := by
  rw [held, List.flatMap_eq_nil_iff]
  intro e he
  obtain ⟨hsound, hstrict⟩ := h.services (Assoc.get?_eq_some_iff.2 he)
  exact hsound.held_of_strict hstrict k

/-- An event issues a number, makes one service give up what it has in memory, or takes numbers from
the counter, if it does anything to the numbers. -/
lemma share_cases (c : Cluster) (k : CounterKey) (e : Event) :
    c.share k e = .none ∨ (∃ v, c.share k e = ⟨[v], [], []⟩) ∨
      (∃ service, c.share k e = ⟨[], c.heldBy service k, []⟩) ∨
      e.increments k = true ∧ ∃ direct, c.share k e = ⟨[], [], direct⟩ := by
  have hdraw : ∀ service tenant s date, c.drawShare k service tenant s date = .none ∨
      (∃ v, c.drawShare k service tenant s date = ⟨[v], [], []⟩) ∨
      ∃ service', c.drawShare k service tenant s date = ⟨[], c.heldBy service' k, []⟩ := by
    intro service tenant s date
    unfold drawShare
    split
    next n key hn _ =>
      have hheld : c.heldBy service k = n.held k := by rw [heldBy, hn, Option.elim_some]
      unfold Share.ofDraw
      split
      · exact .inl rfl
      next v _ =>
        split_ifs
        · exact .inr (.inl ⟨v, rfl⟩)
        · exact .inr (.inr ⟨service, by rw [hheld]⟩)
        · exact .inl rfl
    next => exact .inl rfl
  cases e with
  | start service _ | discard service => exact .inr (.inr (.inl ⟨service, rfl⟩))
  | nextValue service tenant s date | nextNumber service tenant s date =>
    rcases hdraw service tenant s date with h | h | h
    · exact .inl h
    · exact .inr (.inl h)
    · exact .inr (.inr (.inl h))
  | forget service tenant =>
    simp only [share]
    split_ifs
    · exact .inr (.inr (.inl ⟨service, rfl⟩))
    · exact .inl rfl
  | increment text amount =>
    simp only [share]
    split_ifs with h
    · exact .inr (.inr (.inr ⟨decide_eq_true h.1, _, rfl⟩))
    · exact .inl rfl
  | peek | override | set | plan => exact .inl rfl

/-- Strict services have nothing to give up. -/
lemma Sound.share_of_strict (h : c.Sound (· = .strict)) (he : e.increments k = false) :
    (c.share k e).abandoned = [] ∧ (c.share k e).direct = [] := by
  rcases c.share_cases k e with hshare | ⟨v, hshare⟩ | ⟨service, hshare⟩ | ⟨hincrements, -⟩
  · rw [hshare]
    exact ⟨rfl, rfl⟩
  · rw [hshare]
    exact ⟨rfl, rfl⟩
  · rw [hshare]
    exact ⟨h.heldBy_eq_nil service k, rfl⟩
  · rw [he] at hincrements
    cases hincrements

lemma strict_run {events : List Event} (h : c.Sound (· = .strict))
    (hstrict : ∀ e ∈ events, e.starts (· = .strict) ∧ e.increments k = false) :
    (c.run events).held k = [] ∧ (c.shares k events).abandoned = [] ∧
      (c.shares k events).direct = [] := by
  induction events generalizing c with
  | nil => exact ⟨h.held_eq_nil k, rfl, rfl⟩
  | cons e rest ih =>
    obtain ⟨hstarts, hincrements⟩ := hstrict e (by simp)
    obtain ⟨hheld, habandoned, hdirect⟩ :=
      ih (h.step hstarts) fun e' he' => hstrict e' (by simp [he'])
    obtain ⟨habandoned', hdirect'⟩ := h.share_of_strict hincrements
    refine ⟨hheld, ?_, ?_⟩
    · simp only [shares, Share.append, habandoned, habandoned', List.append_nil]
    · simp only [shares, Share.append, hdirect, hdirect', List.append_nil]

/-! ### No number is lost or issued twice -/

/-- However the services take turns, whichever increments fail and whichever services are discarded,
as long as nobody gives the counter a value: each number up to the counter was issued once, or is in
memory, or was given up, or was taken by somebody who added to the counter. So no number is issued
twice, and none that the counter has not passed. If all services are strict and nobody else adds to
the counter, all numbers up to it were issued. -/
theorem numbers_accounted {tenant : TenantId} {s : Sequence} {date : Date} {k : CounterKey}
    (hk : CounterKey.make tenant s date = .ok k) (store : Store)
    (hzero : store.counter k.text = 0) (events : List Event)
    (hset : ∀ e ∈ events, e.sets k = false) :
    let c := (new store).run events
    let share := (new store).shares k events
    (share.issued ++ c.held k ++ share.abandoned ++ share.direct).Perm
      (List.range' 1 (c.counter k)) ∧
    share.issued.Nodup ∧ (∀ v ∈ share.issued, v ≤ c.counter k) ∧
    ((∀ e ∈ events, e.starts (· = .strict) ∧ e.increments k = false) →
      share.issued.Perm (List.range' 1 (c.counter k))) := by
  intro c share
  have hperm : (share.issued ++ c.held k ++ share.abandoned ++ share.direct).Perm
      (List.range' 1 (c.counter k)) := by
    have hrun := (balances_run (.of_make hk) (sound_new store _) hset).perm
    have hstart : (new store).counter k = 0 := hzero
    rw [hstart] at hrun
    exact hrun
  refine ⟨hperm, ?_, ?_, ?_⟩
  · refine (hperm.nodup_iff.2 List.nodup_range').sublist ?_
    simp only [List.append_assoc]
    exact List.sublist_append_left _ _
  · intro v hv
    have hmem := hperm.mem_iff.1 (by simp [hv] : v ∈ _)
    rw [List.mem_range'_1] at hmem
    omega
  · intro hstrict
    obtain ⟨hheld, habandoned, hdirect⟩ := strict_run (k := k) (sound_new store _) hstrict
    rw [hheld, habandoned, hdirect] at hperm
    simpa using hperm

/-- Invoices, which start over each year. -/
def invoices : Sequence := ⟨"INV", .yearly, 5⟩

/-- A day in the middle of 2024. -/
def june2024 : Date := ⟨2024, 6, 15, by decide, by decide, by decide⟩

/-- A day in the middle of 2025. -/
def june2025 : Date := ⟨2025, 6, 15, by decide, by decide, by decide⟩

/-- A strict and a cached service draw numbers of 2024. In between somebody adds to the counter, the
cached service draws a number of 2025, and an increment fails. -/
def twoYears : List Event :=
  [.start 0 .strict, .start 1 (.cached 3 (by decide)),
    .nextValue 1 "t1" invoices june2024, .nextNumber 0 "t1" invoices june2024,
    .increment "t1/INV/2024" 2, .nextValue 1 "t1" invoices june2025,
    .plan .increment (.writing "disk full") 1, .nextValue 1 "t1" invoices june2024,
    .nextValue 1 "t1" invoices june2024]

/-- Of nine numbers three were issued, and the cached service has given up what it had before the
number of 2025. -/
theorem numbers_accounted_twoYears :
    let k : CounterKey := ⟨"t1", "INV", some "2024"⟩
    let c := (new .empty).run twoYears
    CounterKey.make "t1" invoices june2024 = .ok k ∧ Store.empty.counter k.text = 0 ∧
      (∀ e ∈ twoYears, e.sets k = false) ∧
      (new .empty).shares k twoYears = ⟨[1, 4, 7], [2, 3], [5, 6]⟩ ∧ c.held k = [8, 9] ∧
      ([1, 4, 7] ++ [8, 9] ++ [2, 3] ++ [5, 6]).Perm (List.range' 1 9) := by
  intro k c
  have hk : CounterKey.make "t1" invoices june2024 = .ok k := rfl
  have hset : ∀ e ∈ twoYears, e.sets k = false := by decide
  have hshares : (new .empty).shares k twoYears = ⟨[1, 4, 7], [2, 3], [5, 6]⟩ := by decide
  have hheld : c.held k = [8, 9] := by decide
  have hcounter : c.counter k = 9 := by decide
  have hperm := (numbers_accounted hk .empty rfl twoYears hset).1
  rw [hshares, hheld, hcounter] at hperm
  exact ⟨hk, rfl, hset, hshares, hheld, hperm⟩

end Tenancy.Cluster
