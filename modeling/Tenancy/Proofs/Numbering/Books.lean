import Tenancy.Proofs.Numbering.Allocation
import Tenancy.Proofs.Sequence.Key

/-!
# The books of a counter

`Share` says what becomes of the numbers of one counter: which were issued, which were in memory and
are given up, and which somebody took from the counter itself. `Balances` says that nothing else
becomes of them, and `Allocated.balances` that this is so for every request for a number, of the
counter itself or of another one.
-/

namespace Tenancy

/-! ### Shares -/

/-- What becomes of numbers of a counter. -/
structure Share where
  /-- Given out by a service. -/
  issued : List Nat
  /-- In memory once, and given up. -/
  abandoned : List Nat
  /-- Taken by somebody who added to the counter itself. -/
  direct : List Nat
  deriving DecidableEq, Repr

namespace Share

/-- Nothing happens to the numbers. -/
def none : Share := ⟨[], [], []⟩

/-- What becomes of them in two steps. -/
def append (a b : Share) : Share :=
  ⟨a.issued ++ b.issued, a.abandoned ++ b.abandoned, a.direct ++ b.direct⟩

/-- What a request for a number of the counter `key` means for the numbers of `k`: the number is
issued if it is one of `k`, and where `key` is another period of the same series of which nothing
is in memory, the service gives up what it has in memory for `k`. -/
def ofDraw (n : Numbering) (k key : CounterKey) : Except NumberingError Nat → Share
  | .error _ => none
  | .ok v =>
    if key = k then ⟨[v], [], []⟩
    else if key.tenant = k.tenant ∧ key.label = k.label ∧ n.held key = [] then ⟨[], n.held k, []⟩
    else none

end Share

/-- Numbers are moved between memory and the share, and numbers that the counter passes are
added. -/
structure Balances (c : Nat) (held : List Nat) (share : Share) (c' : Nat) (held' : List Nat) :
    Prop where
  le : c ≤ c'
  perm : (share.issued ++ held' ++ share.abandoned ++ share.direct).Perm
    (held ++ List.range' (c + 1) (c' - c))

namespace Balances

variable {c c' c'' : Nat} {held held' held'' : List Nat} {share share' : Share}

lemma of_add (amount : Nat) (h : (share.issued ++ held' ++ share.abandoned ++ share.direct).Perm
    (held ++ List.range' (c + 1) amount)) : Balances c held share (c + amount) held' :=
  ⟨Nat.le_add_right _ _, by rwa [Nat.add_sub_cancel_left]⟩

/-- The counter stays as it is. -/
lemma of_eq (h : (share.issued ++ held' ++ share.abandoned ++ share.direct).Perm held) :
    Balances c held share c held' :=
  of_add 0 (by simpa using h)

lemma refl (c : Nat) (held : List Nat) : Balances c held .none c held :=
  of_eq (by simp [Share.none])

/-- All that is in memory is given up. -/
lemma abandon (c : Nat) (held : List Nat) : Balances c held ⟨[], held, []⟩ c [] :=
  of_eq (by simp)

/-- What others have in memory does not matter. -/
lemma frame (h : Balances c held share c' held') (others : List Nat) {all all' : List Nat}
    (hall : all.Perm (held ++ others)) (hall' : all'.Perm (held' ++ others)) :
    Balances c all share c' all' := by
  -- How often a number stands on both sides is a sum over the parts.
  refine ⟨h.le, List.perm_iff_count.2 fun v => ?_⟩
  have hv := List.perm_iff_count.1 h.perm v
  have hv₁ := List.perm_iff_count.1 hall v
  have hv₂ := List.perm_iff_count.1 hall' v
  simp only [List.count_append] at *
  omega

lemma trans (h : Balances c held share c' held') (h' : Balances c' held' share' c'' held'') :
    Balances c held (share.append share') c'' held'' := by
  have hrange : List.range' (c + 1) (c'' - c) =
      List.range' (c + 1) (c' - c) ++ List.range' (c' + 1) (c'' - c') := by
    have hle := h.le
    have hle' := h'.le
    have hsplit : c'' - c = (c' - c) + (c'' - c') := by omega
    have hstart : c + 1 + 1 * (c' - c) = c' + 1 := by omega
    rw [hsplit, ← List.range'_append, hstart]
  refine ⟨Nat.le_trans h.le h'.le, List.perm_iff_count.2 fun v => ?_⟩
  have hv := List.perm_iff_count.1 h.perm v
  have hv' := List.perm_iff_count.1 h'.perm v
  rw [hrange]
  simp only [Share.append, List.count_append] at *
  omega

end Balances

/-! ### One service -/

namespace Numbering

variable {n n' : Numbering} {k key : CounterKey} {u u' : Unreliable Store}
  {r : Except NumberingError Nat}

/-- All numbers in memory are words, and under the strict strategy there are none. -/
structure Sound (n : Numbering) : Prop where
  fits : ∀ {text range}, n.ranges.get? text = some range → range.Fits
  strict : n.strategy = .strict → ∀ text, n.ranges.get? text = none

lemma sound_new (strategy : Strategy) : (new strategy).Sound := by
  constructor
  · intro text range h
    cases h
  · intro _ text
    rfl

lemma Sound.held_of_strict (h : n.Sound) (hs : n.strategy = .strict) (k : CounterKey) :
    n.held k = [] := by
  rw [held, h.strict hs, Option.elim_none]

lemma held_insert (n : Numbering) (k key : CounterKey) (range : Range) :
    ({ n with ranges := n.ranges.insert key.text range } : Numbering).held k =
      if k.text = key.text then range.toList else n.held k := by
  simp only [held, Assoc.get?_insert]
  split_ifs <;> rfl

/-- Of the counters of one series only the last one keeps its numbers. -/
lemma held_keep (hk : k.Formed) (hkey : key.Formed) (range : Range) :
    (n.keep key range).held k =
      if key = k then range.toList
      else if key.tenant = k.tenant ∧ key.label = k.label then []
      else n.held k := by
  simp only [held, keep, Assoc.get?_insert, Assoc.get?_filter]
  by_cases heq : key = k
  · simp [heq]
  · have htext : k.text ≠ key.text := fun h => heq (CounterKey.text_injective hk hkey h.symm)
    have hseries : key.seriesScope.isPrefixOf k.text.toList = true ↔
        key.tenant = k.tenant ∧ key.label = k.label :=
      List.isPrefixOf_iff_prefix.trans (CounterKey.seriesScope_isPrefix_iff hk hkey)
    rw [if_neg htext, if_neg heq]
    by_cases h : key.tenant = k.tenant ∧ key.label = k.label
    · rw [if_pos h, hseries.2 h]
      cases n.ranges.get? k.text <;> rfl
    · rw [if_neg h, Bool.eq_false_iff.2 (mt hseries.1 h)]
      cases n.ranges.get? k.text <;> rfl

lemma Sound.insert (h : n.Sound) {text : String} {range : Range} (hf : range.Fits)
    (hs : n.strategy ≠ .strict) :
    ({ n with ranges := n.ranges.insert text range } : Numbering).Sound := by
  refine ⟨fun hr => ?_, fun hstrict => absurd hstrict hs⟩
  simp only [Assoc.get?_insert] at hr
  split_ifs at hr
  · cases hr
    exact hf
  · exact h.fits hr

lemma Sound.filter (h : n.Sound) (p : String → Range → Bool) :
    ({ n with ranges := n.ranges.filter p } : Numbering).Sound := by
  constructor
  · intro text range hr
    simp only [Assoc.get?_filter] at hr
    exact h.fits (Option.eq_some_of_filter_eq_some hr)
  · intro hs text
    simp only [Assoc.get?_filter, h.strict hs, Option.filter_none]

lemma Allocated.sound (h : Allocated n key u (r, n', u')) (hn : n.Sound) : n'.Sound := by
  cases h with
  | failed | single => exact hn
  | @drawn range v rest hr ht =>
    refine hn.insert (Range.toList_of_take? (hn.fits hr) ht).2 fun hs => ?_
    rw [hn.strict hs] at hr
    cases hr
  | reserved hs _ _ hmax _ ht =>
    refine (hn.filter _).insert (Range.toList_of_take? (Range.fits_endingAt hmax) ht).2 ?_
    simp [hs]

lemma Allocated.answer (h : Allocated n key u (r, n', u')) (ha : u.answer = none) :
    u'.answer = none := by
  cases h with
  | drawn => exact ha
  | failed ha | single _ ha _ | reserved _ _ ha _ _ _ => exact ha

lemma Allocated.strategy (h : Allocated n key u (r, n', u')) : n'.strategy = n.strategy := by
  cases h <;> rfl

/-- A request for a number of `k` itself. -/
lemma Allocated.balances_self (h : Allocated n k u (r, n', u')) (hn : n.Sound) :
    Balances (u.counter k) (n.held k) (.ofDraw n k k r) (u'.counter k) (n'.held k) := by
  cases h with
  | failed _ hp =>
    rw [Unreliable.counter, Unreliable.counter, hp]
    exact .refl _ _
  | @drawn range v rest hr ht =>
    have hlist : n.held k = range.toList := by rw [held, hr, Option.elim_some]
    rw [held_insert, if_pos rfl, hlist, (Range.toList_of_take? (hn.fits hr) ht).1]
    exact .of_eq (by simp [Share.ofDraw])
  | single hs _ hp =>
    have hc : u'.counter k = u.counter k + 1 := by
      rw [Unreliable.counter, hp, Store.counter_withCounter, if_pos rfl]
    rw [hc, hn.held_of_strict hs]
    exact .of_add 1 (by simp [Share.ofDraw])
  | @reserved size _ v rest _ hs hnone _ hmax hp ht =>
    have hc : u'.counter k = u.counter k + size := by
      rw [Unreliable.counter, hp, Store.counter_withCounter, if_pos rfl]
    have hrest := (Range.toList_of_take? (Range.fits_endingAt hmax) ht).1
    have hkeep : (n.keep k rest).held k = rest.toList := by simp [held, keep, Assoc.get?_insert]
    rw [Range.toList_endingAt] at hrest
    rw [hc, hnone, hkeep]
    exact .of_add size (by simp [Share.ofDraw, hrest])

/-- A request for a number of another counter. -/
lemma Allocated.balances_other (hk : k.Formed) (hkey : key.Formed) (hne : key ≠ k)
    (h : Allocated n key u (r, n', u')) (hn : n.Sound) :
    Balances (u.counter k) (n.held k) (.ofDraw n k key r) (u'.counter k) (n'.held k) := by
  have htext : k.text ≠ key.text := fun h => hne (CounterKey.text_injective hk hkey h.symm)
  have hcounter : ∀ {value}, u'.place = u.place.withCounter key.text value →
      u'.counter k = u.counter k := by
    intro value hp
    rw [Unreliable.counter, hp, Store.counter_withCounter, if_neg htext, Unreliable.counter]
  cases h with
  | failed _ hp =>
    rw [Unreliable.counter, Unreliable.counter, hp]
    exact .refl _ _
  | @drawn range v rest hr ht =>
    have hlist := (Range.toList_of_take? (hn.fits hr) ht).1
    have hsome : n.held key ≠ [] := by simp [held, hr, hlist]
    rw [held_insert, if_neg htext]
    exact .of_eq (by simp [Share.ofDraw, hne, hsome, Share.none])
  | single hs _ hp =>
    rw [hcounter hp, hn.held_of_strict hs]
    refine .of_eq ?_
    simp only [Share.ofDraw, if_neg hne, hn.held_of_strict hs]
    split_ifs <;> simp [Share.none]
  | reserved hs hnone _ _ hp _ =>
    rw [hcounter hp, held_keep hk hkey, if_neg hne]
    refine .of_eq ?_
    simp only [Share.ofDraw, if_neg hne, hnone, and_true]
    split_ifs <;> simp [Share.none]

lemma Allocated.balances (hk : k.Formed) (hkey : key.Formed) (h : Allocated n key u (r, n', u'))
    (hn : n.Sound) :
    Balances (u.counter k) (n.held k) (.ofDraw n k key r) (u'.counter k) (n'.held k) := by
  by_cases heq : key = k
  · subst heq
    exact h.balances_self hn
  · exact h.balances_other hk hkey heq hn

/-! ### Other operations of a service -/

variable {tenant : TenantId} {s : Sequence} {date : Date}

lemma nextValue_of_make (n : Numbering) {key : CounterKey}
    (h : CounterKey.make tenant s date = .ok key) (u : Unreliable Store) :
    n.nextValue tenant s date u = n.allocate key u := by
  simp only [nextValue, withKey, h]

lemma nextValue_snd_of_error (n : Numbering) {e : SequenceError}
    (h : CounterKey.make tenant s date = .error e) (u : Unreliable Store) :
    (n.nextValue tenant s date u).2 = (n, u) := by
  simp only [nextValue, withKey, h]

/-- The text of a number is drawn as the number is. -/
lemma nextNumber_eq {σ : Type} [Counters σ] (n : Numbering) (tenant : TenantId) (s : Sequence)
    (date : Date) (counters : σ) :
    n.nextNumber tenant s date counters =
      ((n.nextValue tenant s date counters).1.map (s.format (s.reset.period? date)),
        (n.nextValue tenant s date counters).2) := by
  simp only [nextNumber, nextValue, withKey]
  cases hkey : CounterKey.make tenant s date with
  | error e => rfl
  | ok key =>
    obtain ⟨-, -, rfl⟩ := CounterKey.make_eq_ok hkey
    rfl

lemma peek_snd (n : Numbering) (tenant : TenantId) (s : Sequence) (date : Date)
    (u : Unreliable Store) :
    (n.peek tenant s date u).2.1 = n ∧ (n.peek tenant s date u).2.2.place = u.place ∧
      (n.peek tenant s date u).2.2.answer = u.answer := by
  simp only [peek, withKey]
  cases CounterKey.make tenant s date with
  | error e => exact ⟨rfl, rfl, rfl⟩
  | ok key =>
    simp only [Counters.current, Unreliable.attempt, true_and]
    cases u.failures.next? .current <;> exact ⟨rfl, rfl⟩

/-- An override fails and changes nothing, or changes one counter, whose numbers in memory are given
up. -/
lemma override_cases (n : Numbering) (tenant : TenantId) (s : Sequence) (date : Date)
    (value : Nat) (u : Unreliable Store) :
    (n.override tenant s date value u).2.2.answer = u.answer ∧
    ((∃ e, (n.override tenant s date value u).1 = .error e) ∧
      (n.override tenant s date value u).2.1 = n ∧
      (n.override tenant s date value u).2.2.place = u.place ∨
    ∃ key, CounterKey.make tenant s date = .ok key ∧
      (n.override tenant s date value u).1 = .ok () ∧
      (n.override tenant s date value u).2.1 = { n with ranges := n.ranges.erase key.text } ∧
      (n.override tenant s date value u).2.2.place = u.place.withCounter key.text value) := by
  simp only [override, withKey]
  cases CounterKey.make tenant s date with
  | error e => exact ⟨rfl, .inl ⟨⟨_, rfl⟩, rfl, rfl⟩⟩
  | ok key =>
    simp only [Counters.set, Unreliable.attempt]
    cases u.failures.next? .set with
    | some planned => exact ⟨rfl, .inl ⟨⟨_, rfl⟩, rfl, rfl⟩⟩
    | none => exact ⟨rfl, .inr ⟨key, rfl, rfl, rfl, rfl⟩⟩

lemma held_erase (n : Numbering) {k key : CounterKey} (h : k.text ≠ key.text) :
    ({ n with ranges := n.ranges.erase key.text } : Numbering).held k = n.held k := by
  simp only [held, Assoc.get?_erase, if_neg h]

lemma held_forget (n : Numbering) (tenant : TenantId) (k : CounterKey) :
    (n.forget tenant).2.held k =
      if CounterKey.tenantScope tenant <+: k.text.toList then [] else n.held k := by
  simp only [held, forget, Assoc.get?_filter, ← List.isPrefixOf_iff_prefix]
  cases (CounterKey.tenantScope tenant).isPrefixOf k.text.toList <;>
    cases n.ranges.get? k.text <;> rfl

/-! ### What every operation keeps -/

/-- The service is sound and has the strategy that it had, and no answer of the store is laid
down. -/
structure Kept (n : Numbering) (result : Numbering × Unreliable Store) : Prop where
  sound : result.1.Sound
  strategy : result.1.strategy = n.strategy
  answer : result.2.answer = none

lemma kept_nextValue (hn : n.Sound) (ha : u.answer = none) (tenant : TenantId) (s : Sequence)
    (date : Date) : n.Kept (n.nextValue tenant s date u).2 := by
  cases hkey : CounterKey.make tenant s date with
  | error e =>
    rw [n.nextValue_snd_of_error hkey]
    exact ⟨hn, rfl, ha⟩
  | ok key =>
    have hallocated := Allocated.of_allocate ha n key
    rw [n.nextValue_of_make hkey]
    exact ⟨hallocated.sound hn, hallocated.strategy, hallocated.answer ha⟩

lemma kept_peek (hn : n.Sound) (ha : u.answer = none) (tenant : TenantId) (s : Sequence)
    (date : Date) : n.Kept (n.peek tenant s date u).2 := by
  obtain ⟨hn', -, ha'⟩ := n.peek_snd tenant s date u
  exact ⟨hn'.symm ▸ hn, by rw [hn'], ha'.trans ha⟩

lemma kept_override (hn : n.Sound) (ha : u.answer = none) (tenant : TenantId) (s : Sequence)
    (date : Date) (value : Nat) : n.Kept (n.override tenant s date value u).2 := by
  obtain ⟨ha', ⟨-, hn', -⟩ | ⟨key, -, -, hn', -⟩⟩ := n.override_cases tenant s date value u
  · exact ⟨hn'.symm ▸ hn, by rw [hn'], ha'.trans ha⟩
  · exact ⟨hn'.symm ▸ hn.filter _, by rw [hn'], ha'.trans ha⟩

lemma kept_forget (hn : n.Sound) (ha : u.answer = none) (tenant : TenantId) :
    n.Kept ((n.forget tenant).2, u) :=
  ⟨hn.filter _, rfl, ha⟩

end Numbering

end Tenancy
