import Mathlib.Tactic.Common
import Tenancy.Numbering.Basic

/-!
# Allocation of one number

What a request for a number can do to the numbers in memory and to the counter: nothing, if it
fails; draw a number from memory; or reserve numbers, one under the strict strategy and a range
under the cached one. `Allocated.of_allocate` says that nothing else happens.
-/

namespace Tenancy

/-! ### Ranges -/

namespace Range

/-- All numbers of a range are words. -/
def Fits (r : Range) : Prop := r.remaining = 0 ∨ r.next + r.remaining ≤ Text.maxWord + 1

lemma take?_eq_none_iff {r : Range} : r.take? = none ↔ r.toList = [] := by
  simp [take?, toList]

/-- The number that is taken is the first one, and the others remain. -/
lemma toList_of_take? {r rest : Range} {v : Nat} (hf : r.Fits) (h : r.take? = some (v, rest)) :
    r.toList = v :: rest.toList ∧ rest.Fits := by
  obtain ⟨next, remaining⟩ := r
  simp only [take?, Option.ite_none_left_eq_some, Option.some.injEq, Prod.mk.injEq] at h
  obtain ⟨hpos, rfl, rfl⟩ := h
  obtain ⟨left, rfl⟩ := Nat.exists_eq_succ_of_ne_zero hpos
  simp only [Fits, Nat.succ_ne_zero, false_or] at hf
  cases left with
  | zero => exact ⟨rfl, .inl rfl⟩
  | succ left =>
    -- As more numbers remain, the next one is a word too.
    have hnext : min (next + 1) Text.maxWord = next + 1 := by omega
    simp only [Nat.succ_sub_one, hnext]
    refine ⟨rfl, .inr ?_⟩
    simp only
    omega

/-- A range that was reserved consists of the numbers that the counter has passed. -/
lemma toList_endingAt (c size : Nat) :
    (endingAt (c + size) size).toList = List.range' (c + 1) size := by
  simp [endingAt, toList]

lemma fits_endingAt {c size : Nat} (h : c + size ≤ Text.maxWord) :
    (endingAt (c + size) size).Fits := by
  refine .inr ?_
  simp only [endingAt]
  omega

end Range

/-! ### Counters -/

namespace Store

/-- The store with a value for a counter. -/
def withCounter (s : Store) (text : String) (value : Nat) : Store :=
  { s with counters := s.counters.insert text value }

lemma counter_withCounter (s : Store) (text other : String) (value : Nat) :
    (s.withCounter text value).counter other = if other = text then value else s.counter other := by
  simp only [counter, withCounter, Assoc.get?_insert]
  split_ifs <;> rfl

/-- A counter is increased, unless it would be no word, and then the store stays as it is. -/
lemma increment_eq (s : Store) (text : String) (amount : Nat) :
    s.increment text amount =
      if maxCounter < s.counter text + amount then (.error (.overflow ("sequence " ++ text)), s)
      else (.ok (s.counter text + amount), s.withCounter text (s.counter text + amount)) := by
  simp only [increment, transact, bind, Except.bind, withCounter]
  split_ifs <;> rfl

end Store

namespace Unreliable

/-- The value of a counter. -/
def counter (u : Unreliable Store) (k : CounterKey) : Nat := u.place.counter k.text

/-- What an increment does: it fails and changes no counter, or adds to the one. -/
inductive Incremented (u : Unreliable Store) (key : CounterKey) (amount : Nat) :
    Except NumberingError Nat × Unreliable Store → Prop
  | failed {e u'} (ha : u'.answer = none) (hp : u'.place = u.place) :
      Incremented u key amount (.error e, u')
  | added {u'} (ha : u'.answer = none) (hmax : u.counter key + amount ≤ Text.maxWord)
      (hp : u'.place = u.place.withCounter key.text (u.counter key + amount)) :
      Incremented u key amount (.ok (u.counter key + amount), u')

lemma Incremented.of_increment {u : Unreliable Store} (ha : u.answer = none) (key : CounterKey)
    (amount : Nat) : Incremented u key amount (Counters.increment key amount u) := by
  simp only [Counters.increment, attempt]
  cases u.failures.next? .increment with
  | some planned => exact .failed ha rfl
  | none =>
    simp only [ha, within, Counters.ofStore, Store.increment_eq]
    split_ifs with hmax
    · exact .failed rfl rfl
    · exact .added rfl (Nat.not_lt.1 hmax) rfl

end Unreliable

/-! ### One request -/

namespace Numbering

/-- The numbers that are in memory for a counter. -/
def held (n : Numbering) (k : CounterKey) : List Nat :=
  (n.ranges.get? k.text).elim [] Range.toList

/-- What a request for a number does: it fails and changes nothing that counts; draws a number from
memory; increases the counter by one; or reserves a range, of which all numbers but the first are
kept. -/
inductive Allocated (n : Numbering) (key : CounterKey) (u : Unreliable Store) :
    Except NumberingError Nat × Numbering × Unreliable Store → Prop
  | failed {e u'} (ha : u'.answer = none) (hp : u'.place = u.place) :
      Allocated n key u (.error e, n, u')
  | drawn {range v rest} (hr : n.ranges.get? key.text = some range)
      (ht : range.take? = some (v, rest)) :
      Allocated n key u (.ok v, { n with ranges := n.ranges.insert key.text rest }, u)
  | single {u'} (hs : n.strategy = .strict) (ha : u'.answer = none)
      (hp : u'.place = u.place.withCounter key.text (u.counter key + 1)) :
      Allocated n key u (.ok (u.counter key + 1), n, u')
  | reserved {size pos v rest u'} (hs : n.strategy = .cached size pos) (hnone : n.held key = [])
      (ha : u'.answer = none) (hmax : u.counter key + size ≤ Text.maxWord)
      (hp : u'.place = u.place.withCounter key.text (u.counter key + size))
      (ht : (Range.endingAt (u.counter key + size) size).take? = some (v, rest)) :
      Allocated n key u (.ok v, n.keep key rest, u')

/-- Nothing is drawn if nothing is in memory. -/
lemma draw?_cases (n : Numbering) (key : CounterKey) :
    n.draw? key = none ∧ n.held key = [] ∨
      ∃ range v rest, n.ranges.get? key.text = some range ∧ range.take? = some (v, rest) ∧
        n.draw? key = some (v, { n with ranges := n.ranges.insert key.text rest }) := by
  simp only [draw?, held, Option.bind_eq_bind]
  cases n.ranges.get? key.text with
  | none => exact .inl ⟨rfl, rfl⟩
  | some range =>
    simp only [Option.bind_some, Option.elim_some]
    cases ht : range.take? with
    | none => exact .inl ⟨rfl, Range.take?_eq_none_iff.1 ht⟩
    | some taken => exact .inr ⟨range, taken.1, taken.2, rfl, ht, rfl⟩

lemma Allocated.of_allocate {u : Unreliable Store} (ha : u.answer = none) (n : Numbering)
    (key : CounterKey) : Allocated n key u (n.allocate key u) := by
  unfold allocate
  split
  next hs =>
    have hinc := Unreliable.Incremented.of_increment ha key 1
    revert hinc
    generalize Counters.increment key 1 u = result
    intro hinc
    cases hinc with
    | failed ha hp => exact .failed ha hp
    | added ha _ hp => exact .single hs ha hp
  next size pos hs =>
    rcases n.draw?_cases key with ⟨hdraw, hnone⟩ | ⟨range, v, rest, hr, ht, hdraw⟩
    · have hinc := Unreliable.Incremented.of_increment ha key size
      simp only [hdraw, reserve]
      revert hinc
      generalize Counters.increment key size u = result
      intro hinc
      cases hinc with
      | failed ha hp => exact .failed ha hp
      | added ha hmax hp =>
        cases ht : (Range.endingAt (u.counter key + size) size).take? with
        | none =>
          rw [Range.take?_eq_none_iff, Range.toList_endingAt, List.range'_eq_nil_iff] at ht
          exact absurd pos (ht ▸ Nat.lt_irrefl _)
        | some taken =>
          simp only [ht]
          exact .reserved hs hnone ha hmax hp ht
    · simp only [hdraw]
      exact .drawn hr ht

end Numbering

end Tenancy
