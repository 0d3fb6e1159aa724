import Tenancy.Proofs.Numbering.Books

/-!
# Sessions of one service

A service is called again and again, and nobody else writes its counters. `Session.serve` says what
a call gives and what it leaves behind, wherever the counters are kept. Over a store that may fail,
failures are planned between the calls, so that a run can fail at any point. `Sound.step_cases`:
whatever happens, a counter of such a store issues a number, or keeps its value, or is given one.
-/

namespace Tenancy

namespace Numbering

/-- A call of a service. -/
inductive Call
  | nextValue (tenant : TenantId) (s : Sequence) (date : Date)
  | nextNumber (tenant : TenantId) (s : Sequence) (date : Date)
  | peek (tenant : TenantId) (s : Sequence) (date : Date)
  | override (tenant : TenantId) (s : Sequence) (date : Date) (value : Nat)
  | forget (tenant : TenantId)
  deriving DecidableEq, Repr

/-- What a call gives. -/
inductive Reply
  | value (r : Except NumberingError Nat)
  | text (r : Except NumberingError String)
  | done (r : Except NumberingError Unit)
  | forgotten (ranges : Nat)
  deriving DecidableEq, Repr

/-- Whether a call asks for a number of a counter. -/
def Call.draws (k : CounterKey) : Call → Bool
  | .nextValue tenant s date | .nextNumber tenant s date =>
    (CounterKey.make tenant s date).toOption = some k
  | _ => false

end Numbering

open Tenancy.Numbering (Call Reply)

/-- A service and the place where its counters are kept. -/
structure Session (σ : Type) where
  service : Numbering
  counters : σ
  deriving Repr

namespace Session

variable {σ : Type} [Counters σ]

/-- A session that starts with nothing in memory. -/
def new (strategy : Strategy) (counters : σ) : Session σ := ⟨.new strategy, counters⟩

/-- What a call gives, and the session after it. -/
def serve (m : Session σ) : Call → Reply × Session σ
  | .nextValue tenant s date =>
    let (r, service, counters) := m.service.nextValue tenant s date m.counters
    (.value r, ⟨service, counters⟩)
  | .nextNumber tenant s date =>
    let (r, service, counters) := m.service.nextNumber tenant s date m.counters
    (.text r, ⟨service, counters⟩)
  | .peek tenant s date =>
    let (r, service, counters) := m.service.peek tenant s date m.counters
    (.value r, ⟨service, counters⟩)
  | .override tenant s date value =>
    let (r, service, counters) := m.service.override tenant s date value m.counters
    (.done r, ⟨service, counters⟩)
  | .forget tenant =>
    let (ranges, service) := m.service.forget tenant
    (.forgotten ranges, ⟨service, m.counters⟩)

/-- The calls with what each of them gives. -/
def replies (m : Session σ) : List Call → List (Call × Reply)
  | [] => []
  | c :: calls => (c, (m.serve c).1) :: (m.serve c).2.replies calls

/-! ### Sessions that may fail -/

/-- What can happen in a session over a store that may fail. -/
inductive Event
  | call (c : Call)
  /-- The next operations of a kind will fail. -/
  | plan (operation : Counters.Operation) (cause : StoreError) (times : Nat)

variable {m : Session (Unreliable Store)} {k : CounterKey} {e : Event}

/-- What a session is after an event. -/
def step (m : Session (Unreliable Store)) : Event → Session (Unreliable Store)
  | .call c => (m.serve c).2
  | .plan operation cause times => { m with counters := m.counters.plan operation cause times }

/-- What it is after several events. -/
def run (m : Session (Unreliable Store)) (events : List Event) : Session (Unreliable Store) :=
  events.foldl step m

/-- The value of a counter. -/
def counter (m : Session (Unreliable Store)) (k : CounterKey) : Nat := m.counters.counter k

/-- The numbers that are in memory for a counter. -/
def held (m : Session (Unreliable Store)) (k : CounterKey) : List Nat := m.service.held k

/-- The number of a counter that an event issues, as a value or in a text. -/
def number? (m : Session (Unreliable Store)) (k : CounterKey) : Event → Option Nat
  | .call c => if c.draws k then (m.service.allocate k m.counters).1.toOption else none
  | .plan .. => none

/-- The value that an event gives a counter. -/
def overridden? (m : Session (Unreliable Store)) (k : CounterKey) : Event → Option Nat
  | .call (.override tenant s date value) =>
    if (CounterKey.make tenant s date).toOption = some k ∧
        (m.service.override tenant s date value m.counters).1.isOk then some value
    else none
  | _ => none

end Session

/-! ### What a request does to one counter -/

namespace Numbering

variable {n n' : Numbering} {k key : CounterKey} {u u' : Unreliable Store}
  {r : Except NumberingError Nat}

/-- The number that is issued is the first one in memory, or the one after the counter if there is
none; the others that the counter has passed stay in memory. -/
lemma Allocated.next {v : Nat} (h : Allocated n k u (.ok v, n', u')) (hn : n.Sound) :
    u.counter k ≤ u'.counter k ∧
      n.held k ++ List.range' (u.counter k + 1) (u'.counter k - u.counter k) = v :: n'.held k := by
  cases h with
  | @drawn range _ rest hr ht =>
    have hlist := (Range.toList_of_take? (hn.fits hr) ht).1
    refine ⟨Nat.le_refl _, ?_⟩
    rw [held_insert, if_pos rfl, held, hr, Option.elim_some, hlist, Nat.sub_self,
      List.range'_zero, List.append_nil]
  | single hs _ hp =>
    have hc : u'.counter k = u.counter k + 1 := by
      rw [Unreliable.counter, hp, Store.counter_withCounter, if_pos rfl]
    rw [hn.held_of_strict hs, hc, Nat.add_sub_cancel_left]
    exact ⟨Nat.le_succ _, rfl⟩
  | @reserved size _ _ rest _ _ hnone _ hmax hp ht =>
    have hc : u'.counter k = u.counter k + size := by
      rw [Unreliable.counter, hp, Store.counter_withCounter, if_pos rfl]
    have hrest := (Range.toList_of_take? (Range.fits_endingAt hmax) ht).1
    have hkeep : (n.keep k rest).held k = rest.toList := by simp [held, keep, Assoc.get?_insert]
    rw [Range.toList_endingAt] at hrest
    rw [hnone, hc, hkeep, Nat.add_sub_cancel_left, hrest]
    exact ⟨Nat.le_add_right _ _, rfl⟩

/-- A request that fails changes neither memory nor counters. -/
lemma Allocated.eq_of_error {e : NumberingError} (h : Allocated n key u (.error e, n', u')) :
    n' = n ∧ u'.place = u.place := by
  cases h with
  | failed _ hp => exact ⟨rfl, hp⟩

/-- A request for a number of another counter leaves the counter alone, and at most gives up what is
in memory for it. -/
lemma Allocated.kept (hk : k.Formed) (hkey : key.Formed) (hne : key ≠ k)
    (h : Allocated n key u (r, n', u')) :
    u'.counter k = u.counter k ∧ (n'.held k = n.held k ∨ n'.held k = []) := by
  have htext : k.text ≠ key.text := fun h => hne (CounterKey.text_injective hk hkey h.symm)
  have hcounter : ∀ {value}, u'.place = u.place.withCounter key.text value →
      u'.counter k = u.counter k := by
    intro value hp
    rw [Unreliable.counter, hp, Store.counter_withCounter, if_neg htext, Unreliable.counter]
  cases h with
  | failed _ hp => exact ⟨by rw [Unreliable.counter, hp, Unreliable.counter], .inl rfl⟩
  | drawn => exact ⟨rfl, .inl (by rw [held_insert, if_neg htext])⟩
  | single _ _ hp => exact ⟨hcounter hp, .inl rfl⟩
  | reserved _ _ _ _ hp _ =>
    refine ⟨hcounter hp, ?_⟩
    rw [held_keep hk hkey, if_neg hne]
    split_ifs
    · exact .inr rfl
    · exact .inl rfl

end Numbering

/-! ### What an event does to one counter -/

namespace Session

variable {m : Session (Unreliable Store)} {k : CounterKey} {e : Event}

/-- No answer of the store is laid down, and the service is sound. -/
structure Sound (m : Session (Unreliable Store)) : Prop where
  answer : m.counters.answer = none
  service : m.service.Sound

lemma sound_new (strategy : Strategy) (store : Store) : (new strategy (.of store)).Sound :=
  ⟨rfl, Numbering.sound_new strategy⟩

lemma serve_nextValue (m : Session (Unreliable Store)) (tenant : TenantId) (s : Sequence)
    (date : Date) :
    (m.serve (.nextValue tenant s date)).2 =
      ⟨(m.service.nextValue tenant s date m.counters).2.1,
        (m.service.nextValue tenant s date m.counters).2.2⟩ := rfl

/-- A request for the text of a number leaves behind what one for the number does. -/
lemma serve_nextNumber (m : Session (Unreliable Store)) (tenant : TenantId) (s : Sequence)
    (date : Date) :
    (m.serve (.nextNumber tenant s date)).2 = (m.serve (.nextValue tenant s date)).2 := by
  simp only [serve, Numbering.nextNumber_eq]

lemma kept_step (h : m.Sound) (e : Event) :
    m.service.Kept ((m.step e).service, (m.step e).counters) := by
  cases e with
  | plan operation cause times => exact ⟨h.service, rfl, h.answer⟩
  | call c =>
    cases c with
    | nextValue tenant s date => exact Numbering.kept_nextValue h.service h.answer tenant s date
    | nextNumber tenant s date =>
      rw [step, serve_nextNumber]
      exact Numbering.kept_nextValue h.service h.answer tenant s date
    | peek tenant s date => exact Numbering.kept_peek h.service h.answer tenant s date
    | override tenant s date value =>
      exact Numbering.kept_override h.service h.answer tenant s date value
    | forget tenant => exact Numbering.kept_forget h.service h.answer tenant

lemma Sound.step (h : m.Sound) (e : Event) : (m.step e).Sound :=
  ⟨(kept_step h e).answer, (kept_step h e).sound⟩

lemma Sound.run (h : m.Sound) (events : List Event) : (m.run events).Sound := by
  induction events generalizing m with
  | nil => exact h
  | cons e rest ih => exact ih (h.step e)

/-- What an event does to a counter: it issues a number of it, leaves it alone, or gives it a
value. -/
inductive Moved (m : Session (Unreliable Store)) (k : CounterKey) (e : Event) : Prop
  | issued (v : Nat) (hnumber : m.number? k e = some v) (hvalue : m.overridden? k e = none)
      (hle : m.counter k ≤ (m.step e).counter k)
      (hheld : m.held k ++ List.range' (m.counter k + 1) ((m.step e).counter k - m.counter k) =
        v :: (m.step e).held k)
  | kept (hnumber : m.number? k e = none) (hvalue : m.overridden? k e = none)
      (hcounter : (m.step e).counter k = m.counter k)
      (hheld : (m.step e).held k = m.held k ∨ (m.step e).held k = [])
  | overridden (value : Nat) (hnumber : m.number? k e = none)
      (hvalue : m.overridden? k e = some value) (hcounter : (m.step e).counter k = value)
      (hheld : (m.step e).held k = [])

/-- A request for a number issues one, or fails and leaves all counters alone. -/
lemma Moved.of_allocated (h : m.Sound) (hk : k.Formed) {key : CounterKey} (hkey : key.Formed)
    {r : Except NumberingError Nat} {n' : Numbering} {u' : Unreliable Store}
    (hallocated : Numbering.Allocated m.service key m.counters (r, n', u'))
    (hstep : m.step e = ⟨n', u'⟩) (hvalue : m.overridden? k e = none)
    (hnumber : m.number? k e = if key = k then r.toOption else none) : Moved m k e := by
  have hcounter : (m.step e).counter k = u'.counter k := by rw [hstep, counter]
  have hheld : (m.step e).held k = n'.held k := by rw [hstep, held]
  by_cases hne : key = k
  · subst hne
    rw [if_pos rfl] at hnumber
    cases r with
    | error fault =>
      obtain ⟨hn, hp⟩ := hallocated.eq_of_error
      refine .kept hnumber hvalue ?_ (.inl ?_)
      · rw [hcounter, Unreliable.counter, hp, counter, Unreliable.counter]
      · rw [hheld, hn, held]
    | ok v =>
      obtain ⟨hle, hlist⟩ := hallocated.next h.service
      refine .issued v hnumber hvalue ?_ ?_
      · rw [hcounter]
        exact hle
      · rw [hcounter, hheld]
        exact hlist
  · rw [if_neg hne] at hnumber
    obtain ⟨hsame, hkept⟩ := hallocated.kept hk hkey hne
    refine .kept hnumber hvalue ?_ ?_
    · rw [hcounter, hsame, counter]
    · rw [hheld]
      exact hkept

/-- An event that leaves the service and the counters alone. -/
lemma Moved.of_unchanged (hnumber : m.number? k e = none) (hvalue : m.overridden? k e = none)
    (hservice : (m.step e).service = m.service)
    (hplace : (m.step e).counters.place = m.counters.place) : Moved m k e := by
  refine .kept hnumber hvalue ?_ (.inl ?_)
  · rw [counter, Unreliable.counter, hplace, counter, Unreliable.counter]
  · rw [held, hservice, held]

/-- A request for a number, as a value or in a text. -/
lemma Moved.of_draw (h : m.Sound) (hk : k.Formed) {c : Call} {tenant : TenantId} {s : Sequence}
    {date : Date} (hstep : (m.serve c).2 = (m.serve (.nextValue tenant s date)).2)
    (hvalue : m.overridden? k (.call c) = none)
    (hdraws : c.draws k = decide ((CounterKey.make tenant s date).toOption = some k)) :
    Moved m k (.call c) := by
  have hnumber : m.number? k (.call c) =
      if c.draws k then (m.service.allocate k m.counters).1.toOption else none := rfl
  rw [hdraws] at hnumber
  cases hkey : CounterKey.make tenant s date with
  | error fault =>
    have hserve : m.step (.call c) = m := hstep.trans (by
      rw [serve_nextValue, m.service.nextValue_snd_of_error hkey])
    refine .of_unchanged ?_ hvalue (by rw [hserve]) (by rw [hserve])
    rw [hnumber, hkey]
    rfl
  | ok key =>
    have hallocated := Numbering.Allocated.of_allocate h.answer m.service key
    rcases hresult : m.service.allocate key m.counters with ⟨r, n', u'⟩
    rw [hresult] at hallocated
    refine .of_allocated h hk (.of_make hkey) hallocated (hstep.trans ?_) hvalue ?_
    · rw [serve_nextValue, m.service.nextValue_of_make hkey, hresult]
    · rw [hnumber, hkey]
      by_cases hne : key = k
      · subst hne
        simp [Except.toOption, hresult]
      · simp [Except.toOption, hne]

lemma Sound.step_cases (h : m.Sound) (hk : k.Formed) (e : Event) : Moved m k e := by
  cases e with
  | plan operation cause times => exact .of_unchanged rfl rfl rfl rfl
  | call c =>
    cases c with
    | nextValue tenant s date => exact .of_draw h hk rfl rfl rfl
    | nextNumber tenant s date => exact .of_draw h hk (m.serve_nextNumber tenant s date) rfl rfl
    | peek tenant s date =>
      obtain ⟨hn, hp, -⟩ := m.service.peek_snd tenant s date m.counters
      exact .of_unchanged rfl rfl hn hp
    | override tenant s date value =>
      obtain ⟨-, ⟨⟨fault, hr⟩, hn, hp⟩ | ⟨key, hkey, hr, hn, hp⟩⟩ :=
        m.service.override_cases tenant s date value m.counters
      · refine .of_unchanged rfl ?_ hn hp
        simp [overridden?, hr, Except.isOk, Except.toBool]
      · have hvalue : m.overridden? k (.call (.override tenant s date value)) =
            if key = k then some value else none := by
          simp [overridden?, hkey, hr, Except.isOk, Except.toBool, Except.toOption]
        have hcounter : (m.step (.call (.override tenant s date value))).counter k =
            (m.counters.place.withCounter key.text value).counter k.text := by
          rw [← hp]
          rfl
        have hheld : (m.step (.call (.override tenant s date value))).held k =
            ({ m.service with ranges := m.service.ranges.erase key.text } : Numbering).held k := by
          rw [← hn]
          rfl
        rw [Store.counter_withCounter] at hcounter
        by_cases hne : key = k
        · subst hne
          rw [if_pos rfl] at hvalue hcounter
          refine .overridden value rfl hvalue hcounter ?_
          rw [hheld]
          simp [Numbering.held, Assoc.get?_erase]
        · have htext : k.text ≠ key.text := fun heq =>
            hne (CounterKey.text_injective hk (.of_make hkey) heq.symm)
          rw [if_neg hne] at hvalue
          rw [if_neg htext] at hcounter
          rw [m.service.held_erase htext] at hheld
          exact .kept rfl hvalue hcounter (.inl hheld)
    | forget tenant =>
      refine .kept rfl rfl rfl ?_
      have hheld := m.service.held_forget tenant k
      split_ifs at hheld
      · exact .inr hheld
      · exact .inl hheld

end Session

end Tenancy
