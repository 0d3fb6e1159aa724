import Tenancy.Proofs.Numbering.Outage

/-!
# The shape of memory

A cached service works over a store that may be out of reach and that others write to. Whatever
happens, it gives up ranges, takes a number from one of them, or reserves a range, which then stands
for its whole series (`Happened.of_happen`). So a series has one range in memory at most, and this
is the end of the interval that was last reserved for its counter: `ranges_in_shape`.
-/

namespace Tenancy

open Tenancy.Numbering (Call Reply Trial)
open Cluster (invoices june2024 june2025)

/-! ### What is left of an interval -/

namespace Range

variable {r rest : Range} {c size v : Nat}

/-- What is left of an interval of so many numbers up to a value of the counter, after at least one
of them was taken. -/
structure Ends (r : Range) (c size : Nat) : Prop where
  size_le : size ≤ c
  le : c ≤ Text.maxWord
  remaining_lt : r.remaining < size
  next_eq : r.next = min (c + 1 - r.remaining) Text.maxWord

lemma take?_eq_some_iff :
    r.take? = some (v, rest) ↔
      r.remaining ≠ 0 ∧ v = r.next ∧ rest = ⟨min (r.next + 1) Text.maxWord, r.remaining - 1⟩ := by
  simp [take?, eq_comm]

lemma Ends.of_endingAt (hmax : c + size ≤ Text.maxWord)
    (h : (endingAt (c + size) size).take? = some (v, rest)) : rest.Ends (c + size) size := by
  obtain ⟨hpos, -, rfl⟩ := take?_eq_some_iff.1 h
  simp only [endingAt] at hpos ⊢
  exact ⟨Nat.le_add_left _ _, hmax, by simp only; omega, by simp only; omega⟩

/-- As long as a number remains, the next one is a word; only behind the greatest word the range
stays where it is. -/
lemma Ends.take? (h : r.Ends c size) (ht : r.take? = some (v, rest)) : rest.Ends c size := by
  obtain ⟨hpos, -, rfl⟩ := take?_eq_some_iff.1 ht
  obtain ⟨hsize, hle, hlt, hnext⟩ := h
  exact ⟨hsize, hle, by simp only; omega, by simp only; omega⟩

lemma Ends.of_take? (h : r.Ends c size) (ht : r.take? = some (v, rest)) : c - size < v ∧ v ≤ c := by
  obtain ⟨hpos, rfl, -⟩ := take?_eq_some_iff.1 ht
  obtain ⟨hsize, hle, hlt, hnext⟩ := h
  omega

lemma Ends.last_le (h : r.Ends c size) : r.next + r.remaining - 1 ≤ c := by
  obtain ⟨hsize, hle, hlt, hnext⟩ := h
  omega

lemma Ends.toList_suffix (h : r.Ends c size) : r.toList <:+ List.range' (c - size + 1) size := by
  obtain ⟨hsize, hle, hlt, hnext⟩ := h
  rcases Nat.eq_zero_or_pos r.remaining with hzero | hpos
  · rw [toList, hzero]
    exact List.nil_suffix
  · have hfirst : r.next = c - size + 1 + 1 * (size - r.remaining) := by omega
    have hcount : size = size - r.remaining + r.remaining := by omega
    rw [toList, hfirst]
    exact ⟨List.range' (c - size + 1) (size - r.remaining), by
      rw [List.range'_append, ← hcount]⟩

end Range

/-! ### Requests -/

/-- A counter of some sequence, for some tenant and some date. -/
def CounterKey.IsMade (k : CounterKey) : Prop :=
  ∃ (tenant : TenantId) (s : Sequence) (date : Date), make tenant s date = .ok k

lemma CounterKey.IsMade.formed {k : CounterKey} (h : k.IsMade) : k.Formed := by
  obtain ⟨tenant, s, date, h⟩ := h
  exact .of_make h

namespace Numbering

/-- There is a range in memory for a counter. -/
def Keeps (n : Numbering) (k : CounterKey) : Prop :=
  ∃ range, n.ranges.get? k.text = some range

/-- What is at fault if there is no result. -/
def faultOf {α : Type} : Except NumberingError α → Option NumberingError
  | .error e => some e
  | .ok _ => none

/-- What is at fault if a call fails. -/
def Reply.fault? : Reply → Option NumberingError
  | .value r => faultOf r
  | .text r => faultOf r
  | .done r => faultOf r
  | .forgotten _ => none

/-- The reply with the text of the number in place of the number. -/
def Reply.inText (f : Nat → String) : Reply → Reply
  | .value r => .text (r.map f)
  | r => r

lemma Reply.fault?_inText (f : Nat → String) (r : Reply) : (r.inText f).fault? = r.fault? := by
  cases r with
  | value r => cases r <;> rfl
  | text | done | forgotten => rfl

variable {n : Numbering} {size : Nat} {pos : 0 < size}

/-- When a range is kept, the ranges of the other periods of its series are gone, and those of other
series are as they were. -/
lemma get?_keep_cases (n : Numbering) {key k : CounterKey} {range rest : Range} (hkey : key.IsMade)
    (hk : k.IsMade) (hget : (n.keep key rest).ranges.get? k.text = some range) :
    k = key ∧ range = rest ∨
      ¬(k.tenant = key.tenant ∧ k.label = key.label) ∧ n.ranges.get? k.text = some range := by
  rw [keep, Assoc.get?_insert, Assoc.get?_filter] at hget
  split_ifs at hget with heq
  · cases hget
    exact .inl ⟨CounterKey.text_injective hkey.formed hk.formed heq, rfl⟩
  · obtain ⟨hget, hscope⟩ := Option.filter_eq_some_iff.1 hget
    refine .inr ⟨fun hseries => ?_, hget⟩
    have hstarts := (CounterKey.seriesScope_isPrefix_iff hk.formed hkey.formed).2
      ⟨hseries.1.symm, hseries.2.symm⟩
    rw [List.isPrefixOf_iff_prefix.2 hstarts] at hscope
    cases hscope

/-- What a request for a number does under the cached strategy: it fails for what the place or its
store has against it, and changes nothing; it takes a number from memory; or it reserves a range. -/
inductive Allotted (size : Nat) (n : Numbering) (key : CounterKey) (u : Outage Store) :
    Except NumberingError Nat × Numbering × Outage Store → Prop
  | failed {e} (he : u.fault = some e ∨ ∃ cause, e = .store cause) :
      Allotted size n key u (.error e, n, u)
  | drawn {range v rest} (hr : n.ranges.get? key.text = some range)
      (ht : range.take? = some (v, rest)) :
      Allotted size n key u (.ok v, { n with ranges := n.ranges.insert key.text rest }, u)
  | reserved {v rest u'} (hnone : n.held key = [])
      (hmax : u.place.counter key.text + size ≤ Text.maxWord)
      (ht : (Range.endingAt (u.place.counter key.text + size) size).take? = some (v, rest))
      (hp : u'.place = u.place.withCounter key.text (u.place.counter key.text + size)) :
      Allotted size n key u (.ok v, n.keep key rest, u')

lemma Allotted.of_allocate (hs : n.strategy = .cached size pos) (key : CounterKey)
    (u : Outage Store) : Allotted size n key u (n.allocate key u) := by
  simp only [allocate, hs]
  rcases n.draw?_cases key with ⟨hdraw, hnone⟩ | ⟨range, v, rest, hr, ht, hdraw⟩
  · simp only [hdraw, reserve]
    obtain ⟨store, fault⟩ := u
    cases fault with
    | some e => exact .failed (.inl rfl)
    | none =>
      have hincrement : Counters.increment key size (⟨store, none⟩ : Outage Store) =
          ((Counters.increment key size store).1, ⟨(Counters.increment key size store).2, none⟩) :=
        rfl
      rw [hincrement, increment_store]
      split_ifs with hmax
      · exact .failed (.inr ⟨_, rfl⟩)
      · obtain ⟨⟨v, rest⟩, ht⟩ :=
          Option.isSome_iff_exists.1 (take?_endingAt pos (store.counter key.text + size))
        simp only [ht]
        exact .reserved hnone (Nat.not_lt.1 hmax) ht rfl
  · simp only [hdraw]
    exact .drawn hr ht

end Numbering

/-! ### What can happen -/

namespace Session

/-- What can happen to a service over a store that others write to. -/
inductive Happening
  | call (t : Trial)
  /-- Somebody else adds to a counter. -/
  | increment (text : String) (amount : Nat)
  /-- Somebody else gives a counter a value. -/
  | set (text : String) (value : Nat)

/-- What a session is after something happened. -/
def happen (m : Session Store) : Happening → Session Store
  | .call t => (m.attempt t).2
  | .increment text amount => { m with counters := (m.counters.increment text amount).2 }
  | .set text value => { m with counters := (m.counters.set text value).2 }

/-- What it is after several things happened. -/
def through (m : Session Store) (hs : List Happening) : Session Store := hs.foldl happen m

/-- The value to which a counter is increased to reserve a range for it, by a call that asks for a
number of the counter and gets one while there is none in memory. -/
def reserved? (m : Session Store) (k : CounterKey) : Happening → Option Nat
  | .call t =>
    if t.call.draws k = true ∧ m.service.held k = [] ∧ (m.attempt t).1.fault? = none then
      some ((m.attempt t).2.counters.counter k.text)
    else none
  | _ => none

/-- The value to which a counter was last increased to reserve a range for it. -/
def lastReserved? (m : Session Store) (k : CounterKey) : List Happening → Option Nat
  | [] => none
  | h :: hs => ((m.happen h).lastReserved? k hs).or (m.reserved? k h)

variable {m : Session Store} {key : CounterKey} {size : Nat} {pos : 0 < size}
  {tenant : TenantId} {s : Sequence} {date : Date} {fault : Option NumberingError}

lemma through_append (m : Session Store) (past : List Happening) (h : Happening) :
    m.through (past ++ [h]) = (m.through past).happen h := by
  simp only [through, List.foldl_append, List.foldl_cons, List.foldl_nil]

lemma lastReserved?_append (m : Session Store) (k : CounterKey) (past : List Happening)
    (h : Happening) :
    m.lastReserved? k (past ++ [h]) =
      ((m.through past).reserved? k h).or (m.lastReserved? k past) := by
  induction past generalizing m with
  | nil => simp [lastReserved?, through]
  | cons first past ih =>
    rw [List.cons_append, lastReserved?, ih, Option.or_assoc, lastReserved?]
    rfl

/-- A request for the text of a number does what one for the number does. -/
lemma attempt_nextNumber (m : Session Store) (tenant : TenantId) (s : Sequence) (date : Date)
    (fault : Option NumberingError) :
    m.attempt ⟨.nextNumber tenant s date, fault⟩ =
      ((m.attempt ⟨.nextValue tenant s date, fault⟩).1.inText (s.format (s.reset.period? date)),
        (m.attempt ⟨.nextValue tenant s date, fault⟩).2) := by
  simp only [attempt, serve, Numbering.nextNumber_eq, Reply.inText]

lemma attempt_nextValue (hkey : CounterKey.make tenant s date = .ok key)
    {r : Except NumberingError Nat} {n' : Numbering} {u' : Outage Store}
    (hresult : m.service.allocate key (⟨m.counters, fault⟩ : Outage Store) = (r, n', u')) :
    m.attempt ⟨.nextValue tenant s date, fault⟩ = (.value r, ⟨n', u'.place⟩) := by
  simp only [attempt, serve, Numbering.nextValue, Numbering.withKey, hkey, hresult]

lemma attempt_nextValue_of_error {e : SequenceError}
    (hkey : CounterKey.make tenant s date = .error e) :
    m.attempt ⟨.nextValue tenant s date, fault⟩ = (.value (.error (.sequence e)), m) := by
  simp only [attempt, serve, Numbering.nextValue, Numbering.withKey, hkey]

/-- What becomes of the ranges in memory: some are given up; a number is taken from one of them; or
a range is reserved, and those of its series are given up. -/
inductive Happened (size : Nat) (m : Session Store) (h : Happening) : Prop
  | lost {ranges : Assoc String Range}
      (hservice : (m.happen h).service = { m.service with ranges })
      (hsub : ∀ {text range}, ranges.get? text = some range →
        m.service.ranges.get? text = some range)
      (hreserved : ∀ k, m.reserved? k h = none)
  | drawn {key : CounterKey} {range rest : Range} {v : Nat} (hkey : key.IsMade)
      (hr : m.service.ranges.get? key.text = some range) (ht : range.take? = some (v, rest))
      (hservice : (m.happen h).service =
        { m.service with ranges := m.service.ranges.insert key.text rest })
      (hreserved : ∀ k, m.reserved? k h = none)
  | reserved {key : CounterKey} {rest : Range} {v : Nat} (hkey : key.IsMade)
      (hmax : m.counters.counter key.text + size ≤ Text.maxWord)
      (ht : (Range.endingAt (m.counters.counter key.text + size) size).take? = some (v, rest))
      (hservice : (m.happen h).service = m.service.keep key rest)
      (hreserved : ∀ k, m.reserved? k h =
        if k = key then some (m.counters.counter key.text + size) else none)

lemma reserved?_of_fault (k : CounterKey) {t : Trial} {e : NumberingError}
    (hfault : (m.attempt t).1.fault? = some e) : m.reserved? k (.call t) = none := by
  refine if_neg fun ⟨_, _, hnone⟩ => ?_
  rw [hfault] at hnone
  cases hnone

lemma reserved?_of_draws (k : CounterKey) {t : Trial} (hdraws : t.call.draws k = false) :
    m.reserved? k (.call t) = none := by
  refine if_neg fun ⟨htrue, _⟩ => ?_
  rw [hdraws] at htrue
  cases htrue

/-- A call that asks for no number and leaves the ranges alone. -/
lemma Happened.of_unchanged {t : Trial} (hservice : (m.happen (.call t)).service = m.service)
    (hdraws : ∀ k, t.call.draws k = false) : Happened size m (.call t) :=
  .lost hservice (fun h => h) fun k => reserved?_of_draws k (hdraws k)

/-- An override gives up the range of its counter, unless it fails. -/
lemma service_override (m : Session Store) (tenant : TenantId) (s : Sequence) (date : Date)
    (value : Nat) (fault : Option NumberingError) :
    (m.attempt ⟨.override tenant s date value, fault⟩).2.service = m.service ∨
      ∃ text, (m.attempt ⟨.override tenant s date value, fault⟩).2.service =
        { m.service with ranges := m.service.ranges.erase text } := by
  simp only [attempt, serve, Numbering.override, Numbering.withKey]
  cases CounterKey.make tenant s date with
  | error e => exact .inl rfl
  | ok key =>
    cases fault with
    | some e => exact .inl rfl
    | none => exact .inr ⟨key.text, rfl⟩

/-- A request for a number, as a value or in a text. -/
lemma Happened.of_draw (hs : m.service.strategy = .cached size pos) {t : Trial}
    (hafter : (m.attempt t).2 = (m.attempt ⟨.nextValue tenant s date, t.fault⟩).2)
    (hfault : (m.attempt t).1.fault? = (m.attempt ⟨.nextValue tenant s date, t.fault⟩).1.fault?)
    (hdraws : ∀ k, t.call.draws k = decide ((CounterKey.make tenant s date).toOption = some k)) :
    Happened size m (.call t) := by
  cases hkey : CounterKey.make tenant s date with
  | error e =>
    rw [attempt_nextValue_of_error hkey] at hafter hfault
    exact .lost (congrArg service hafter) (fun h => h) fun k => reserved?_of_fault k hfault
  | ok key =>
    have hmade : key.IsMade := ⟨tenant, s, date, hkey⟩
    have hallotted := Numbering.Allotted.of_allocate hs key ⟨m.counters, t.fault⟩
    rcases hresult : m.service.allocate key (⟨m.counters, t.fault⟩ : Outage Store) with ⟨r, n', u'⟩
    rw [attempt_nextValue hkey hresult] at hafter hfault
    rw [hresult] at hallotted
    have hservice : (m.happen (.call t)).service = n' := congrArg service hafter
    have hother : ∀ k, k ≠ key → m.reserved? k (.call t) = none := by
      intro k hne
      refine reserved?_of_draws k ?_
      simp [hdraws, hkey, Except.toOption, Ne.symm hne]
    cases hallotted with
    | failed he => exact .lost hservice (fun h => h) fun k => reserved?_of_fault k hfault
    | @drawn range v rest hr ht =>
      refine .drawn hmade hr ht hservice fun k => ?_
      by_cases hk : k = key
      · refine if_neg fun hreserved => ?_
        obtain ⟨-, hnone, -⟩ := hreserved
        rw [hk, Numbering.held, hr, Option.elim_some, ← Range.take?_eq_none_iff, ht] at hnone
        cases hnone
      · exact hother k hk
    | reserved hnone hmax ht hp =>
      refine .reserved hmade hmax ht hservice fun k => ?_
      split_ifs with hk
      · have hcounter : (m.attempt t).2.counters.counter key.text =
            m.counters.counter key.text + size := by
          rw [hafter, hp, Store.counter_withCounter, if_pos rfl]
        have hdrawn : t.call.draws key = true := by simp [hdraws, hkey, Except.toOption]
        rw [hk, reserved?, if_pos ⟨hdrawn, hnone, hfault⟩, hcounter]
      · exact hother k hk

lemma Happened.of_happen (hs : m.service.strategy = .cached size pos) (h : Happening) :
    Happened size m h := by
  cases h with
  | increment text amount => exact .lost rfl (fun h => h) fun _ => rfl
  | set text value => exact .lost rfl (fun h => h) fun _ => rfl
  | call t =>
    obtain ⟨c, fault⟩ := t
    cases c with
    | nextValue tenant s date => exact .of_draw hs rfl rfl fun _ => rfl
    | nextNumber tenant s date =>
      refine .of_draw hs ?_ ?_ fun _ => rfl
      · rw [attempt_nextNumber]
      · rw [attempt_nextNumber, Reply.fault?_inText]
    | peek tenant s date =>
      refine .of_unchanged ?_ fun _ => rfl
      simp only [happen, attempt, serve, Numbering.peek, Numbering.withKey]
      cases CounterKey.make tenant s date <;> rfl
    | override tenant s date value =>
      rcases service_override m tenant s date value fault with hservice | ⟨text, hservice⟩
      · exact .of_unchanged hservice fun _ => rfl
      · refine .lost hservice (fun {other range} hget => ?_) fun k => reserved?_of_draws k rfl
        rw [Assoc.get?_erase] at hget
        split_ifs at hget
        exact hget
    | forget tenant =>
      refine .lost rfl (fun {text range} hget => ?_) fun k => reserved?_of_draws k rfl
      rw [Assoc.get?_filter] at hget
      exact (Option.filter_eq_some_iff.1 hget).1

/-! ### The shape of memory -/

/-- The ranges in memory are those of counters, one for a series at most, and what is left of
intervals that were reserved up to given values. -/
structure Shaped (size : Nat) (reserved? : CounterKey → Option Nat) (n : Numbering) : Prop where
  made : ∀ {text range}, n.ranges.get? text = some range →
    ∃ k : CounterKey, k.IsMade ∧ text = k.text
  single : ∀ {k k' : CounterKey}, k.IsMade → k'.IsMade → n.Keeps k → n.Keeps k' →
    k.tenant = k'.tenant → k.label = k'.label → k = k'
  range : ∀ {k : CounterKey} {range}, k.IsMade → n.ranges.get? k.text = some range →
    ∃ c, reserved? k = some c ∧ range.Ends c size

namespace Shaped

variable {n : Numbering} {before after : CounterKey → Option Nat} {rest : Range}

/-- Giving up ranges. -/
lemma lost (h : Shaped size before n) {ranges : Assoc String Range}
    (hsub : ∀ {text range}, ranges.get? text = some range → n.ranges.get? text = some range) :
    Shaped size before { n with ranges } where
  made hget := h.made (hsub hget)
  single hk hk' hkeeps hkeeps' :=
    h.single hk hk' (hkeeps.imp fun _ => hsub) (hkeeps'.imp fun _ => hsub)
  range hk hget := h.range hk (hsub hget)

/-- Taking a number from a range. -/
lemma drawn (h : Shaped size before n) {range : Range} {v : Nat} (hkey : key.IsMade)
    (hr : n.ranges.get? key.text = some range) (ht : range.take? = some (v, rest)) :
    Shaped size before { n with ranges := n.ranges.insert key.text rest } := by
  have hkeeps : ∀ {k : CounterKey},
      ({ n with ranges := n.ranges.insert key.text rest } : Numbering).Keeps k → n.Keeps k := by
    rintro k ⟨range', hget⟩
    rw [Assoc.get?_insert] at hget
    split_ifs at hget with heq
    · exact ⟨range, heq ▸ hr⟩
    · exact ⟨range', hget⟩
  refine ⟨fun {text range'} hget => ?_, fun hk hk' hkept hkept' =>
    h.single hk hk' (hkeeps hkept) (hkeeps hkept'), fun {k range'} hk hget => ?_⟩
  · rw [Assoc.get?_insert] at hget
    split_ifs at hget with heq
    · exact ⟨key, hkey, heq⟩
    · exact h.made hget
  · rw [Assoc.get?_insert] at hget
    split_ifs at hget with heq
    · cases hget
      obtain rfl := CounterKey.text_injective hkey.formed hk.formed heq
      obtain ⟨c, hc, hends⟩ := h.range hk hr
      exact ⟨c, hc, hends.take? ht⟩
    · exact h.range hk hget

/-- Keeping a range that was reserved. -/
lemma keep (h : Shaped size before n) {c : Nat} (hkey : key.IsMade) (hends : rest.Ends c size)
    (hafter : ∀ k, after k = if k = key then some c else before k) :
    Shaped size after (n.keep key rest) := by
  refine ⟨fun {text range} hrange => ?_, fun {k k'} hk hk' hkept hkept' htenant hlabel => ?_,
    fun {k range} hk hrange => ?_⟩
  · rw [Numbering.keep, Assoc.get?_insert, Assoc.get?_filter] at hrange
    split_ifs at hrange with heq
    · exact ⟨key, hkey, heq⟩
    · exact h.made (Option.filter_eq_some_iff.1 hrange).1
  · obtain ⟨range, hrange⟩ := hkept
    obtain ⟨range', hrange'⟩ := hkept'
    rcases n.get?_keep_cases hkey hk hrange with ⟨rfl, -⟩ | ⟨hother, hrange⟩
    · rcases n.get?_keep_cases hkey hk' hrange' with ⟨rfl, -⟩ | ⟨hother', -⟩
      · rfl
      · exact absurd ⟨htenant.symm, hlabel.symm⟩ hother'
    · rcases n.get?_keep_cases hkey hk' hrange' with ⟨rfl, -⟩ | ⟨-, hrange'⟩
      · exact absurd ⟨htenant, hlabel⟩ hother
      · exact h.single hk hk' ⟨range, hrange⟩ ⟨range', hrange'⟩ htenant hlabel
  · rw [hafter]
    rcases n.get?_keep_cases hkey hk hrange with ⟨rfl, rfl⟩ | ⟨hother, hrange⟩
    · exact ⟨c, if_pos rfl, hends⟩
    · have hne : k ≠ key := by
        rintro rfl
        exact hother ⟨rfl, rfl⟩
      rw [if_neg hne]
      exact h.range hk hrange

end Shaped

lemma shaped_new (strategy : Strategy) : Shaped size (fun _ => none) (.new strategy) where
  made hget := by cases hget
  single _ _ hkept := by
    obtain ⟨range, hget⟩ := hkept
    cases hget
  range _ hget := by cases hget

/-- Whatever happens keeps the strategy and the shape of memory, with the values up to which
intervals are reserved by it. -/
lemma Shaped.happen {before : CounterKey → Option Nat}
    (hs : m.service.strategy = .cached size pos) (hshaped : Shaped size before m.service)
    (h : Happening) :
    (m.happen h).service.strategy = .cached size pos ∧
      Shaped size (fun k => (m.reserved? k h).or (before k)) (m.happen h).service := by
  cases Happened.of_happen hs h with
  | lost hservice hsub hreserved =>
    simp only [hservice, hreserved, Option.none_or]
    exact ⟨hs, hshaped.lost hsub⟩
  | drawn hkey hr ht hservice hreserved =>
    simp only [hservice, hreserved, Option.none_or]
    exact ⟨hs, hshaped.drawn hkey hr ht⟩
  | reserved hkey hmax ht hservice hreserved =>
    rw [hservice]
    refine ⟨hs, hshaped.keep hkey (.of_endingAt hmax ht) fun k => ?_⟩
    rw [hreserved]
    split_ifs <;> rfl

lemma shaped_through (pos : 0 < size) (store : Store) (past : List Happening) :
    let start := new (.cached size pos) store
    (start.through past).service.strategy = .cached size pos ∧
      Shaped size (start.lastReserved? · past) (start.through past).service := by
  intro start
  induction past using List.reverseRecOn with
  | nil => exact ⟨rfl, shaped_new _⟩
  | append_singleton past h ih =>
    obtain ⟨hs, hshaped⟩ := ih
    simp only [through_append, lastReserved?_append]
    exact hshaped.happen hs h

lemma fault?_nextValue_ne_overflow (hs : m.service.strategy = .cached size pos)
    (tenant : TenantId) (s : Sequence) (date : Date) (cause : Option StoreError) (k : CounterKey) :
    (m.attempt ⟨.nextValue tenant s date, cause.map .store⟩).1.fault? ≠ some (.overflow k) := by
  cases hkey : CounterKey.make tenant s date with
  | error e =>
    rw [attempt_nextValue_of_error hkey]
    simp [Reply.fault?, Numbering.faultOf]
  | ok key =>
    let u : Outage Store := ⟨m.counters, cause.map .store⟩
    have hallotted := Numbering.Allotted.of_allocate hs key u
    rcases hresult : m.service.allocate key u with ⟨r, n', u'⟩
    rw [attempt_nextValue hkey hresult]
    rw [hresult] at hallotted
    cases hallotted with
    | failed he =>
      rcases he with he | ⟨cause, rfl⟩
      · obtain ⟨cause, -, rfl⟩ := Option.map_eq_some_iff.1 he
        simp [Reply.fault?, Numbering.faultOf]
      · simp [Reply.fault?, Numbering.faultOf]
    | drawn | reserved => simp [Reply.fault?, Numbering.faultOf]

/-- As long as no call fails for anything but the store, no counter is reported to be used up. -/
lemma fault?_attempt_ne_overflow (hs : m.service.strategy = .cached size pos) (c : Call)
    (cause : Option StoreError) (k : CounterKey) :
    (m.attempt ⟨c, cause.map .store⟩).1.fault? ≠ some (.overflow k) := by
  cases c with
  | nextValue tenant s date => exact fault?_nextValue_ne_overflow hs tenant s date cause k
  | nextNumber tenant s date =>
    rw [attempt_nextNumber, Reply.fault?_inText]
    exact fault?_nextValue_ne_overflow hs tenant s date cause k
  | peek tenant s date =>
    simp only [attempt, serve, Numbering.peek, Numbering.withKey]
    cases CounterKey.make tenant s date <;> cases cause <;>
      simp [Reply.fault?, Numbering.faultOf, Counters.current, Outage.attempt]
  | override tenant s date value =>
    simp only [attempt, serve, Numbering.override, Numbering.withKey]
    cases CounterKey.make tenant s date with
    | error e => simp [Reply.fault?, Numbering.faultOf]
    | ok key =>
      cases cause with
      | some cause => simp [Reply.fault?, Numbering.faultOf, Counters.set, Outage.attempt]
      | none => exact (Option.some_ne_none _).symm
  | forget tenant => simp [attempt, serve, Reply.fault?]

/-- In every state that a service with ranges of a size can get to, over a store that may be out of
reach and that others write to, a series has one range in memory at most, whatever the periods. A
range has fewer numbers than were reserved, and these are the last of the interval that was last
reserved for its counter, up to the value that the counter had then. The service itself never
reports that a counter is used up. -/
theorem ranges_in_shape (size : Nat) (pos : 0 < size) (store : Store) (past : List Happening) :
    let start := new (.cached size pos) store
    let m := start.through past
    (∀ k k' : CounterKey, k.IsMade → k'.IsMade → m.service.Keeps k → m.service.Keeps k' →
      k.tenant = k'.tenant → k.label = k'.label → k = k') ∧
    (∀ text range, m.service.ranges.get? text = some range →
      ∃ (k : CounterKey) (c : Nat), k.IsMade ∧ text = k.text ∧
        start.lastReserved? k past = some c ∧ size ≤ c ∧
        range.remaining < size ∧ range.next + range.remaining - 1 ≤ c ∧
        range.toList <:+ List.range' (c - size + 1) size ∧
        ∀ v rest, range.take? = some (v, rest) → c - size < v ∧ v ≤ c) ∧
    ∀ (c : Call) (cause : Option StoreError) (key : CounterKey),
      (m.attempt ⟨c, cause.map .store⟩).1.fault? ≠ some (.overflow key) := by
  intro start m
  obtain ⟨hs, hshaped⟩ := shaped_through pos store past
  refine ⟨fun k k' hk hk' hkept hkept' => hshaped.single hk hk' hkept hkept',
    fun text range hget => ?_, fault?_attempt_ne_overflow hs⟩
  obtain ⟨k, hk, rfl⟩ := hshaped.made hget
  obtain ⟨c, hc, hends⟩ := hshaped.range hk hget
  exact ⟨k, c, hk, rfl, hc, hends.size_le, hends.remaining_lt, hends.last_le, hends.toList_suffix,
    fun v rest ht => hends.of_take? ht⟩

/-- Two tenants draw numbers in ranges of three, one of them for two years. The counter of the later
year is given a value near the greatest one, by an override and then by somebody else, and the store
is out of reach at a call in between. -/
def nearTop : List Happening :=
  let down := some (NumberingError.store (.transaction "down"))
  [.call ⟨.nextValue "t1" invoices june2024, none⟩,
    .call ⟨.nextValue "t10" invoices june2024, none⟩,
    .call ⟨.nextNumber "t1" invoices june2025, none⟩,
    .call ⟨.override "t1" invoices june2025 18446744073709551600, none⟩,
    .call ⟨.nextValue "t1" invoices june2025, down⟩, .set "t1/INV/2025" 18446744073709551612,
    .call ⟨.nextValue "t1" invoices june2025, none⟩,
    .call ⟨.nextNumber "t1" invoices june2025, none⟩]

/-- The greatest number is in memory, in the only range of its series. When it is taken, it is the
store that reports the counter to be used up. -/
theorem ranges_in_shape_nearTop :
    let start := new (.cached 3 (by decide)) Store.empty
    let m := start.through nearTop
    let top : Range := ⟨18446744073709551615, 1⟩
    m.service.ranges.toList = [("t10/INV/2024", ⟨2, 2⟩), ("t1/INV/2025", top)] ∧
      start.lastReserved? ⟨"t1", "INV", some "2025"⟩ nearTop = some 18446744073709551615 ∧
      (∃ (k : CounterKey) (c : Nat), k.IsMade ∧ "t1/INV/2025" = k.text ∧
        start.lastReserved? k nearTop = some c ∧ top.toList <:+ List.range' (c - 3 + 1) 3) ∧
      ∀ key, (m.attempt ⟨.nextValue "t1" invoices june2025, none⟩).1.fault? ≠
        some (.overflow key) := by
  intro start m top
  obtain ⟨-, hshape, hfaults⟩ := ranges_in_shape 3 (by decide) Store.empty nearTop
  obtain ⟨k, c, hk, htext, hc, -, -, -, hsuffix, -⟩ :=
    hshape "t1/INV/2025" top (by decide +kernel)
  exact ⟨by decide +kernel, by decide +kernel, ⟨k, c, hk, htext, hc, hsuffix⟩, hfaults _ none⟩

end Session

end Tenancy
