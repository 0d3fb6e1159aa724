import Tenancy.Proofs.Numbering.Accounted
import Tenancy.Proofs.Numbering.Requests
import Tenancy.Proofs.Numbering.Session

/-!
# Counters that are given a value

An administrator gives a counter a value, and the numbers in memory are given up with it. `due` says
what a request for a number is given in any state of a session. `override_takes_effect`: after a
counter was given a value, the numbers that it issues go up from there one by one, with gaps only
where numbers were given up; no number is larger than a word, and no other counter is touched.
-/

namespace Tenancy

namespace Numbering

variable {n : Numbering} {k : CounterKey} {u : Unreliable Store}

/-! ### What a request is given -/

/-- The number that a request is due: the first one in memory, or else the one after the counter. It
fails if the counter fails, or cannot be increased any more. -/
def due (n : Numbering) (k : CounterKey) (u : Unreliable Store) : Except NumberingError Nat :=
  match n.held k, u.failures.next? .increment with
  | v :: _, _ => .ok v
  | [], some (cause, _) => .error (.store cause)
  | [], none =>
    if Store.maxCounter < u.counter k + n.strategy.amount then
      .error (.store (.overflow ("sequence " ++ k.text)))
    else .ok (u.counter k + 1)

lemma increment_fst (ha : u.answer = none) (k : CounterKey) (amount : Nat) :
    (Counters.increment k amount u).1 =
      match u.failures.next? .increment with
      | some (cause, _) => .error (.store cause)
      | none =>
        if Store.maxCounter < u.counter k + amount then
          .error (.store (.overflow ("sequence " ++ k.text)))
        else .ok (u.counter k + amount) := by
  simp only [Counters.increment, Unreliable.attempt]
  cases u.failures.next? .increment with
  | some planned => rfl
  | none =>
    simp only [ha, Unreliable.within, Counters.ofStore, Store.increment_eq, Unreliable.counter]
    by_cases hmax : Store.maxCounter < u.place.counter k.text + amount
    · simp [hmax, Except.mapError]
    · simp [hmax, Except.mapError]

lemma settle_error (n : Numbering) (k : CounterKey) (e : NumberingError) :
    n.settle k (.error e) = (.error e, n) := by
  unfold settle
  cases n.strategy <;> rfl

lemma allocate_fst (hn : n.Sound) (ha : u.answer = none) (hk : k.Formed) :
    (n.allocate k u).1 = n.due k u := by
  rw [allocate_eq, due]
  rcases fromMemory?_cases hn hk with ⟨hnone, hnil⟩ | ⟨v, n', hsome, -, -, hheld, -⟩
  · have hfst := increment_fst ha k n.strategy.amount
    simp only [hnone, hnil]
    revert hfst
    generalize Counters.increment k n.strategy.amount u = result
    intro hfst
    rw [hfst]
    cases u.failures.next? .increment with
    | some planned => simp only [settle_error]
    | none =>
      simp only
      split_ifs with hmax
      · simp only [settle_error]
      · obtain ⟨n', hsettle, -⟩ := settle_ok hn hk (Nat.not_lt.1 hmax)
        simp only [hsettle]
  · simp only [hsome, hheld]

/-- The numbers in memory are words. -/
lemma Sound.le_of_mem_held (hn : n.Sound) {v : Nat} (h : v ∈ n.held k) : v ≤ Text.maxWord := by
  rw [held] at h
  cases hr : n.ranges.get? k.text with
  | none => simp [hr] at h
  | some range =>
    rw [hr, Option.elim_some, Range.toList, List.mem_range'_1] at h
    rcases hn.fits hr with hzero | hmax
    · omega
    · omega

lemma le_of_due (hn : n.Sound) {v : Nat} (h : n.due k u = .ok v) : v ≤ Text.maxWord := by
  unfold due at h
  split at h
  next hheld =>
    cases h
    exact hn.le_of_mem_held (hheld ▸ List.mem_cons_self)
  · cases h
  · split_ifs at h with hmax
    cases h
    have hpos := n.strategy.amount_pos
    have hword : Store.maxCounter = Text.maxWord := rfl
    omega

end Numbering

namespace Session

open Tenancy.Numbering (Call Reply)
open Cluster (invoices june2024 june2025)

variable {m : Session (Unreliable Store)} {k : CounterKey} {e : Event} {events : List Event}
  {last value : Nat}

/-! ### Numbers to come -/

/-- The numbers of a counter that events issue, until the counter is given another value. -/
def numbers (m : Session (Unreliable Store)) (k : CounterKey) : List Event → List Nat
  | [] => []
  | e :: events =>
    if (m.overridden? k e).isSome then []
    else (m.number? k e).toList ++ (m.step e).numbers k events

/-- The counter has passed `last`, and the numbers in memory lie between them in order. -/
structure Ahead (m : Session (Unreliable Store)) (k : CounterKey) (last : Nat) : Prop where
  sound : m.Sound
  sorted : (last :: m.held k).Pairwise (· < ·)
  le : ∀ v ∈ last :: m.held k, v ≤ m.counter k

lemma Ahead.keep (h : m.Ahead k last) (hcounter : (m.step e).counter k = m.counter k)
    (hheld : (m.step e).held k = m.held k ∨ (m.step e).held k = []) :
    (m.step e).Ahead k last := by
  refine ⟨h.sound.step e, ?_, ?_⟩
  all_goals
    rcases hheld with hheld | hheld
    all_goals rw [hheld]
  · exact h.sorted
  · exact List.pairwise_singleton _ _
  · rw [hcounter]
    exact h.le
  · rw [hcounter, List.forall_mem_singleton]
    exact h.le last List.mem_cons_self

/-- The number that is issued is greater than those before it, and those to come are greater than
it. -/
lemma Ahead.issue (h : m.Ahead k last) {v : Nat} (hle : m.counter k ≤ (m.step e).counter k)
    (hheld : m.held k ++ List.range' (m.counter k + 1) ((m.step e).counter k - m.counter k) =
      v :: (m.step e).held k) : last < v ∧ (m.step e).Ahead k v := by
  have hsorted : (last :: (v :: (m.step e).held k)).Pairwise (· < ·) := by
    rw [← hheld, ← List.cons_append, List.pairwise_append]
    refine ⟨h.sorted, List.pairwise_lt_range', ?_⟩
    intro a ha b hb
    have := h.le a ha
    rw [List.mem_range'_1] at hb
    omega
  obtain ⟨hlast, hsorted⟩ := List.pairwise_cons.1 hsorted
  refine ⟨hlast v List.mem_cons_self, h.sound.step e, hsorted, ?_⟩
  intro a ha
  rw [← hheld, List.mem_append, List.mem_range'_1] at ha
  rcases ha with ha | ha
  · exact Nat.le_trans (h.le a (List.mem_cons_of_mem _ ha)) hle
  · omega

/-- The numbers that are issued from now on go up. -/
lemma Ahead.numbers_sorted (h : m.Ahead k last) (hk : k.Formed) :
    (last :: m.numbers k events).Pairwise (· < ·) := by
  induction events generalizing m last with
  | nil => exact List.pairwise_singleton _ _
  | cons e rest ih =>
    rw [numbers]
    cases h.sound.step_cases hk e with
    | issued v hnumber hvalue hle hheld =>
      obtain ⟨hlast, hahead⟩ := h.issue hle hheld
      have hrest := ih hahead
      rw [hvalue, hnumber, Option.isSome_none, if_neg Bool.false_ne_true, Option.toList_some,
        List.singleton_append, List.pairwise_cons]
      refine ⟨fun a ha => ?_, hrest⟩
      rcases List.mem_cons.1 ha with rfl | ha
      · exact hlast
      · exact Nat.lt_trans hlast ((List.pairwise_cons.1 hrest).1 a ha)
    | kept hnumber hvalue hcounter hheld =>
      rw [hvalue, hnumber, Option.isSome_none, if_neg Bool.false_ne_true]
      exact ih (h.keep hcounter hheld)
    | overridden value hnumber hvalue =>
      rw [hvalue, Option.isSome_some, if_pos rfl]
      exact List.pairwise_singleton _ _

/-- As long as nothing is in memory, the first number to come is the one after the counter. -/
lemma Sound.head?_numbers (h : m.Sound) (hk : k.Formed) (hnil : m.held k = []) {v : Nat}
    (hv : (m.numbers k events).head? = some v) : v = m.counter k + 1 := by
  induction events generalizing m with
  | nil => cases hv
  | cons e rest ih =>
    rw [numbers] at hv
    cases h.step_cases hk e with
    | issued w hnumber hvalue hle hheld =>
      rw [hvalue, hnumber] at hv
      obtain rfl : w = v := Option.some.inj hv
      rw [hnil, List.nil_append] at hheld
      cases hsize : (m.step e).counter k - m.counter k with
      | zero => simp [hsize] at hheld
      | succ size =>
        rw [hsize, List.range'_succ, List.cons.injEq] at hheld
        exact hheld.1.symm
    | kept hnumber hvalue hcounter hheld =>
      rw [hvalue, hnumber] at hv
      have hnil' : (m.step e).held k = [] := by
        rcases hheld with hheld | hheld
        · rw [hheld, hnil]
        · exact hheld
      rw [ih (h.step e) hnil' hv, hcounter]
    | overridden value hnumber hvalue =>
      rw [hvalue] at hv
      cases hv

/-! ### One call -/

variable {tenant : TenantId} {s : Sequence} {date : Date}

/-- A request gets what is due, and one that fails leaves memory and counters as they were. -/
lemma Sound.serve_request (h : m.Sound) (hk : CounterKey.make tenant s date = .ok k) :
    let r := m.service.due k m.counters
    (m.serve (.nextValue tenant s date)).1 = .value r ∧
    (m.serve (.nextNumber tenant s date)).1 = .text (r.map (s.format k.period)) ∧
    ∀ fault, r = .error fault → (m.serve (.nextValue tenant s date)).2.service = m.service ∧
      (m.serve (.nextValue tenant s date)).2.counters.place = m.counters.place := by
  have hdue := Numbering.allocate_fst h.service h.answer (.of_make hk)
  have hallocated := Numbering.Allocated.of_allocate h.answer m.service k
  have hvalue := m.service.nextValue_of_make hk m.counters
  obtain ⟨-, -, hperiod⟩ := CounterKey.make_eq_ok hk
  rcases hresult : m.service.allocate k m.counters with ⟨r, n', u'⟩
  rw [hresult] at hdue hallocated hvalue
  simp only [serve, Numbering.nextNumber_eq, hvalue, ← hdue, true_and]
  refine ⟨by rw [hperiod], fun fault hfault => ?_⟩
  subst hfault
  exact hallocated.eq_of_error

/-- What a request is due is the number that it issues. -/
lemma Sound.number?_request (h : m.Sound) (hk : CounterKey.make tenant s date = .ok k) {c : Call}
    (hdraws : c.draws k = true) :
    m.number? k (.call c) = (m.service.due k m.counters).toOption := by
  rw [← Numbering.allocate_fst h.service h.answer (.of_make hk)]
  exact if_pos hdraws

/-- An override that succeeds gives the counter its value and leaves nothing of it in memory. -/
lemma Sound.serve_override (h : m.Sound) (hk : CounterKey.make tenant s date = .ok k)
    (hok : (m.serve (.override tenant s date value)).1 = .done (.ok ())) :
    let m' := (m.serve (.override tenant s date value)).2
    m'.Sound ∧ m'.counter k = value ∧ m'.held k = [] := by
  obtain ⟨-, ⟨⟨fault, hr⟩, -⟩ | ⟨key, hkey, -, hn, hp⟩⟩ :=
    m.service.override_cases tenant s date value m.counters
  · simp [serve, hr] at hok
  · obtain rfl : k = key := by
      rw [hk] at hkey
      cases hkey
      rfl
    refine ⟨h.step (.call (.override tenant s date value)), ?_, ?_⟩
    · simp only [serve, counter, Unreliable.counter, hp, Store.counter_withCounter, if_pos]
    · simp only [serve, held, hn, Numbering.held, Assoc.get?_erase, if_pos, Option.elim_none]

/-- An override, whether it succeeds or fails, touches no other counter. -/
lemma serve_override_other (m : Session (Unreliable Store)) {key : CounterKey}
    (hk : CounterKey.make tenant s date = .ok k) (hkey : key.Formed) (hne : key ≠ k)
    (value : Nat) :
    let m' := (m.serve (.override tenant s date value)).2
    m'.counter key = m.counter key ∧
      m'.service.ranges.get? key.text = m.service.ranges.get? key.text := by
  obtain ⟨-, ⟨-, hn, hp⟩ | ⟨k', hk', -, hn, hp⟩⟩ :=
    m.service.override_cases tenant s date value m.counters
  · simp only [serve, counter, Unreliable.counter, hp, hn, and_self]
  · obtain rfl : k = k' := by
      rw [hk] at hk'
      cases hk'
      rfl
    have htext : key.text ≠ k.text := fun heq =>
      hne (CounterKey.text_injective (.of_make hk) hkey heq)
    simp only [serve, counter, Unreliable.counter, hp, hn, Store.counter_withCounter, if_neg htext,
      Assoc.get?_erase, and_self]

lemma serve_override_ok (m : Session (Unreliable Store))
    (hk : CounterKey.make tenant s date = .ok k) (value : Nat)
    (hset : m.counters.failures.next? .set = none) :
    (m.serve (.override tenant s date value)).1 = .done (.ok ()) := by
  simp only [serve, Numbering.override, Numbering.withKey, hk, Counters.set, Unreliable.attempt,
    hset, Unreliable.within, Counters.ofStore]
  rfl

/-! ### Overrides take effect -/

/-- In a session whose counters nobody else writes, whatever happened before: when a counter was
given a value, the numbers that it issues until it is given another one are greater and go up, and
the first of them is the next number, however often failures, other periods and other tenants come
between them. Every request, at any time, gets what is due, which is never more than a word, and
changes nothing if it fails. No override touches another counter. -/
theorem override_takes_effect (strategy : Strategy) (store : Store) (before after : List Event)
    (hk : CounterKey.make tenant s date = .ok k) (value : Nat) :
    let m := (new strategy (.of store)).run before
    let m' := (m.serve (.override tenant s date value)).2
    ((m.serve (.override tenant s date value)).1 = .done (.ok ()) →
      (m'.numbers k after).Pairwise (· < ·) ∧ (∀ v ∈ m'.numbers k after, value < v) ∧
      ∀ v, (m'.numbers k after).head? = some v → v = value + 1) ∧
    (m.counters.failures.next? .set = none →
      (m.serve (.override tenant s date value)).1 = .done (.ok ())) ∧
    (∀ {tenant' s' date' key}, CounterKey.make tenant' s' date' = .ok key →
      let r := m.service.due key m.counters
      (m.serve (.nextValue tenant' s' date')).1 = .value r ∧
      (m.serve (.nextNumber tenant' s' date')).1 = .text (r.map (s'.format key.period)) ∧
      (∀ v, r = .ok v → v ≤ Text.maxWord) ∧
      ∀ c ∈ [Call.nextValue tenant' s' date', .nextNumber tenant' s' date'],
        m.number? key (.call c) = r.toOption ∧
        ∀ fault, r = .error fault →
          (m.serve c).2.service = m.service ∧ (m.serve c).2.counters.place = m.counters.place) ∧
    ∀ {tenant' s' date' key}, CounterKey.make tenant' s' date' = .ok key → key ≠ k →
      m'.counter key = m.counter key ∧
        m'.service.ranges.get? key.text = m.service.ranges.get? key.text := by
  intro m m'
  have hm : m.Sound := (sound_new strategy store).run before
  refine ⟨fun hok => ?_, m.serve_override_ok hk value, fun hkey => ?_, fun hkey hne =>
    m.serve_override_other hk (.of_make hkey) hne value⟩
  · obtain ⟨hsound, hcounter, hheld⟩ := hm.serve_override hk hok
    have hahead : m'.Ahead k value := by
      refine ⟨hsound, ?_, ?_⟩
      · rw [hheld]
        exact List.pairwise_singleton _ _
      · rw [hheld, List.forall_mem_singleton, hcounter]
    have hsorted : (value :: m'.numbers k after).Pairwise (· < ·) :=
      hahead.numbers_sorted (.of_make hk)
    obtain ⟨hgreater, hsorted⟩ := List.pairwise_cons.1 hsorted
    refine ⟨hsorted, hgreater, fun v hv => ?_⟩
    rw [hsound.head?_numbers (.of_make hk) hheld hv, hcounter]
  · obtain ⟨hvalue, htext, herror⟩ := hm.serve_request hkey
    refine ⟨hvalue, htext, fun v hv => Numbering.le_of_due hm.service hv, ?_⟩
    intro c hc
    rcases List.mem_pair.1 hc with rfl | rfl
    · exact ⟨hm.number?_request hkey (by simp [Call.draws, hkey, Except.toOption]), herror⟩
    · rw [serve_nextNumber]
      exact ⟨hm.number?_request hkey (by simp [Call.draws, hkey, Except.toOption]), herror⟩

/-- What happens after the counter of 2024 was given a value: its range is given up, an increment
fails, another year comes in between, one override fails, and another one succeeds. -/
def disturbances : List Event :=
  [.call (.nextValue "t1" invoices june2024), .call (.forget "t1"),
    .plan .increment (.writing "disk full") 1, .call (.nextValue "t1" invoices june2024),
    .call (.nextNumber "t1" invoices june2024), .call (.nextValue "t1" invoices june2024),
    .call (.nextValue "t1" invoices june2025), .plan .set (.writing "disk full") 1,
    .call (.override "t1" invoices june2024 7), .call (.nextValue "t1" invoices june2024),
    .call (.override "t1" invoices june2024 7), .call (.nextValue "t1" invoices june2024)]

/-- Orders, which never start over. -/
def orders : Sequence := ⟨"PO", .never, 5⟩

/-- Ranges of three are reserved after the value 100. The counter of the orders stands too high for
a range, and stays as it is. -/
theorem override_takes_effect_disturbed :
    let k : CounterKey := ⟨"t1", "INV", some "2024"⟩
    let other : CounterKey := ⟨"t1", "PO", none⟩
    let before : List Event := [.call (.override "t1" orders june2024 18446744073709551614),
      .call (.nextValue "t1" invoices june2024)]
    let m := (new (.cached 3 (by decide)) (.of .empty)).run before
    let m' := (m.serve (.override "t1" invoices june2024 100)).2
    CounterKey.make "t1" invoices june2024 = .ok k ∧
      (m.serve (.override "t1" invoices june2024 100)).1 = .done (.ok ()) ∧
      m'.numbers k disturbances = [101, 104, 105, 107] ∧
      [101, 104, 105, 107].Pairwise (· < ·) ∧ (∀ v ∈ [101, 104, 105, 107], 100 < v) ∧
      (m.serve (.nextValue "t1" orders june2024)).1 =
        .value (.error (.store (.overflow "sequence t1/PO/-"))) ∧
      m'.counter other = 18446744073709551614 := by
  intro k other before m m'
  have hk : CounterKey.make "t1" invoices june2024 = .ok k := rfl
  have hother : CounterKey.make "t1" orders june2024 = .ok other := rfl
  obtain ⟨heffect, -, hdue, hframe⟩ :=
    override_takes_effect (.cached 3 (by decide)) .empty before disturbances hk 100
  have hok : (m.serve (.override "t1" invoices june2024 100)).1 = .done (.ok ()) := by decide
  have hnumbers : m'.numbers k disturbances = [101, 104, 105, 107] := by decide +kernel
  obtain ⟨hsorted, hgreater, -⟩ := heffect hok
  rw [hnumbers] at hsorted hgreater
  refine ⟨hk, hok, hnumbers, hsorted, hgreater, ?_, ?_⟩
  · have hoverflow : m.service.due other m.counters =
        .error (.store (.overflow "sequence t1/PO/-")) := by decide +kernel
    rw [(hdue hother).1, hoverflow]
  · rw [(hframe hother (by decide)).1]
    decide +kernel

end Session

end Tenancy
