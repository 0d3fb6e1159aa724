import Mathlib.Algebra.Order.Floor.Div
import Tenancy.Proofs.Numbering.Books

/-!
# Requests for numbers, one after another

A request names a tenant, a sequence and a date. `answers` is what requests ought to be given: each
the number after the last one of its counter. `drawAll_new`: as long as no series goes back to a
period that it has left, every strategy gives exactly these numbers, and asks the counters only as
often as its ranges are used up.
-/

namespace Tenancy

/-! ### Rounding up -/

lemma le_mul_ceilDiv {size : Nat} (pos : 0 < size) (n : Nat) : n ≤ size * (n ⌈/⌉ size) :=
  le_smul_ceilDiv pos

lemma ceilDiv_mono {size m n : Nat} (pos : 0 < size) (h : m ≤ n) : m ⌈/⌉ size ≤ n ⌈/⌉ size :=
  (ceilDiv_le_iff_le_mul pos).2 (Nat.le_trans h (le_mul_ceilDiv pos n))

/-- One more number takes another range exactly if all ranges are used up. -/
lemma succ_ceilDiv {size : Nat} (pos : 0 < size) (n : Nat) :
    (n + 1) ⌈/⌉ size =
      if size * (n ⌈/⌉ size) = n then n ⌈/⌉ size + 1 else n ⌈/⌉ size := by
  have hle := le_mul_ceilDiv pos n
  have hmono := ceilDiv_mono pos (Nat.le_add_right n 1)
  split_ifs with h
  · refine Nat.le_antisymm ((ceilDiv_le_iff_le_mul pos).2 ?_) (Nat.not_le.1 fun hsucc => ?_)
    · rw [Nat.mul_succ]
      omega
    · have := (ceilDiv_le_iff_le_mul pos).1 hsucc
      omega
  · exact Nat.le_antisymm ((ceilDiv_le_iff_le_mul pos).2 (by omega)) hmono

/-! ### Counters that are watched -/

/-- A place where counters are kept, with the counters that were increased. -/
structure Recorded (σ : Type) where
  place : σ
  log : List CounterKey

namespace Recorded

variable {σ : Type}

/-- A place of which no counter was increased yet. -/
def of (place : σ) : Recorded σ := ⟨place, []⟩

instance [Counters σ] : Counters (Recorded σ) where
  increment key amount u :=
    let (r, place) := Counters.increment key amount u.place
    (r, ⟨place, u.log ++ [key]⟩)
  set key value u :=
    let (r, place) := Counters.set key value u.place
    (r, { u with place })
  current key u :=
    let (r, place) := Counters.current key u.place
    (r, { u with place })

lemma increment_of_le {u : Recorded Store} {key : CounterKey} {amount : Nat}
    (h : u.place.counter key.text + amount ≤ Text.maxWord) :
    Counters.increment key amount u = (.ok (u.place.counter key.text + amount),
      ⟨u.place.withCounter key.text (u.place.counter key.text + amount), u.log ++ [key]⟩) := by
  have hmax : ¬ Store.maxCounter < u.place.counter key.text + amount := Nat.not_lt.2 h
  simp only [Counters.increment, Counters.ofStore, Store.increment_eq, if_neg hmax]
  rfl

end Recorded

namespace Numbering

/-! ### Requests -/

/-- A request for a number. -/
structure Request where
  tenant : TenantId
  sequence : Sequence
  date : Date

/-- The counter that a request asks, if it is well formed. -/
def Request.key (r : Request) : Except SequenceError CounterKey :=
  CounterKey.make r.tenant r.sequence r.date

lemma nextValue_of_key {σ : Type} [Counters σ] (n : Numbering) {r : Request} {key : CounterKey}
    (h : r.key = .ok key) (counters : σ) :
    n.nextValue r.tenant r.sequence r.date counters = n.allocate key counters := by
  rw [Request.key] at h
  simp only [nextValue, withKey, h]

lemma nextValue_of_key_error {σ : Type} [Counters σ] (n : Numbering) {r : Request}
    {e : SequenceError} (h : r.key = .error e) (counters : σ) :
    n.nextValue r.tenant r.sequence r.date counters = (.error (.sequence e), n, counters) := by
  rw [Request.key] at h
  simp only [nextValue, withKey, h]

/-- The counters that requests ask. -/
def keys (requests : List Request) : List CounterKey :=
  requests.filterMap fun r => r.key.toOption

/-- What requests are given if each is given the number after the last one of its counter. `start`
is the last number of each counter before, and `past` are the counters asked since. -/
def answers (start : CounterKey → Nat) :
    List CounterKey → List Request → List (Except NumberingError Nat)
  | _, [] => []
  | past, r :: rest =>
    match r.key with
    | .error e => .error (.sequence e) :: answers start past rest
    | .ok k => .ok (start k + past.count k + 1) :: answers start (past ++ [k]) rest

/-- Makes requests one after another. -/
def drawAll {σ : Type} [Counters σ] (n : Numbering) :
    List Request → σ → List (Except NumberingError Nat) × Numbering × σ
  | [], counters => ([], n, counters)
  | r :: rest, counters =>
    let (answer, n, counters) := n.nextValue r.tenant r.sequence r.date counters
    let (answers, n, counters) := n.drawAll rest counters
    (answer :: answers, n, counters)

lemma drawAll_append {σ : Type} [Counters σ] (n : Numbering) (a b : List Request) (counters : σ) :
    n.drawAll (a ++ b) counters =
      ((n.drawAll a counters).1 ++
        ((n.drawAll a counters).2.1.drawAll b (n.drawAll a counters).2.2).1,
        ((n.drawAll a counters).2.1.drawAll b (n.drawAll a counters).2.2).2) := by
  induction a generalizing n counters with
  | nil => rfl
  | cons r a ih => simp only [List.cons_append, drawAll, ih]

/-- No series goes back to a period that it has left. -/
def NeverReturns (keys : List CounterKey) : Prop :=
  ∀ k k', [k, k', k].Sublist keys → k'.tenant = k.tenant → k'.label = k.label → k' = k

/-- No other period of its series was asked for since the counter was. -/
def IsLatest (past : List CounterKey) (k : CounterKey) : Prop :=
  ∀ k', [k, k'].Sublist past → k'.tenant = k.tenant → k'.label = k.label → k' = k

lemma NeverReturns.isLatest {past rest : List CounterKey} {k : CounterKey}
    (h : NeverReturns (past ++ k :: rest)) : IsLatest past k := fun k' hsub =>
  h k k' (hsub.append (List.singleton_sublist.2 List.mem_cons_self))

lemma IsLatest.of_append {past : List CounterKey} {k key : CounterKey}
    (h : IsLatest (past ++ [key]) k) : IsLatest past k := fun k' hsub =>
  h k' (hsub.trans (List.sublist_append_left _ _))

/-- A series asks for a period that is not the latest one only if it never asked for that. -/
lemma IsLatest.notMem {past : List CounterKey} {k key : CounterKey}
    (h : IsLatest (past ++ [key]) k) (hne : key ≠ k) (htenant : key.tenant = k.tenant)
    (hlabel : key.label = k.label) : k ∉ past := fun hmem =>
  hne (h key ((List.singleton_sublist.2 hmem).append (List.Sublist.refl [key])) htenant hlabel)

/-! ### One reservation -/

end Numbering

/-- How many numbers a strategy reserves at once. -/
def Strategy.amount : Strategy → Nat
  | .strict => 1
  | .cached size _ => size

lemma Strategy.amount_pos (s : Strategy) : 0 < s.amount := by
  cases s with
  | strict => exact Nat.one_pos
  | cached size pos => exact pos

namespace Numbering

/-- The number that a service draws from memory, and the service after it. -/
def fromMemory? (n : Numbering) (key : CounterKey) : Option (Nat × Numbering) :=
  match n.strategy with
  | .strict => none
  | .cached _ _ => n.draw? key

/-- What a service makes of the counter's answer: under the strict strategy the number, and under
the cached one the end of a range, of which it keeps all numbers but the first. -/
def settle (n : Numbering) (key : CounterKey) (answer : Except NumberingError Nat) :
    Except NumberingError Nat × Numbering :=
  match n.strategy, answer with
  | .strict, answer => (answer, n)
  | .cached _ _, .error e => (.error e, n)
  | .cached size _, .ok ceiling =>
    match (Range.endingAt ceiling size).take? with
    | none => (.error (.overflow key), n)
    | some (value, rest) => (.ok value, n.keep key rest)

/-- A request draws from memory, or asks the counter and settles its answer. -/
lemma allocate_eq {σ : Type} [Counters σ] (n : Numbering) (key : CounterKey) (counters : σ) :
    n.allocate key counters =
      match n.fromMemory? key with
      | some (value, n) => (.ok value, n, counters)
      | none =>
        let (answer, counters) := Counters.increment key n.strategy.amount counters
        let (r, n) := n.settle key answer
        (r, n, counters) := by
  obtain ⟨strategy, ranges⟩ := n
  cases strategy with
  | strict => rfl
  | cached size pos =>
    simp only [allocate, fromMemory?, settle, reserve, Strategy.amount]
    cases draw? ⟨.cached size pos, ranges⟩ key with
    | some taken => rfl
    | none =>
      obtain ⟨answer, counters⟩ := Counters.increment key size counters
      cases answer with
      | error e => rfl
      | ok ceiling =>
        simp only
        cases (Range.endingAt ceiling size).take? <;> rfl

/-- Memory gives the first number that it has for the counter, or it has none. -/
lemma fromMemory?_cases {n : Numbering} {key : CounterKey} (hn : n.Sound) (hkey : key.Formed) :
    n.fromMemory? key = none ∧ n.held key = [] ∨
      ∃ v n', n.fromMemory? key = some (v, n') ∧ n'.Sound ∧ n'.strategy = n.strategy ∧
        n.held key = v :: n'.held key ∧ ∀ k, k.Formed → k ≠ key → n'.held k = n.held k := by
  cases hs : n.strategy with
  | strict => exact .inl ⟨by simp only [fromMemory?, hs], hn.held_of_strict hs key⟩
  | cached size pos =>
    simp only [fromMemory?, hs]
    rcases n.draw?_cases key with hnone | ⟨range, v, rest, hr, ht, hdraw⟩
    · exact .inl hnone
    · obtain ⟨hlist, hfits⟩ := Range.toList_of_take? (hn.fits hr) ht
      refine .inr ⟨v, _, hdraw, hn.insert hfits (by simp [hs]), hs, ?_, fun k hk hne => ?_⟩
      · rw [held_insert, if_pos rfl, held, hr, Option.elim_some, hlist]
      · rw [held_insert, if_neg fun htext => hne (CounterKey.text_injective hkey hk htext)]

/-- After a reservation the service gives the first number that the counter has passed and keeps the
others; of other periods of the series it keeps none. -/
lemma settle_ok {n : Numbering} {key : CounterKey} (hn : n.Sound) (hkey : key.Formed) {c : Nat}
    (hmax : c + n.strategy.amount ≤ Text.maxWord) :
    ∃ n', n.settle key (.ok (c + n.strategy.amount)) = (.ok (c + 1), n') ∧ n'.Sound ∧
      n'.strategy = n.strategy ∧ (n'.held key = List.range' (c + 2) (n.strategy.amount - 1)) ∧
      ∀ k, k.Formed → k ≠ key → n'.held k =
        if key.tenant = k.tenant ∧ key.label = k.label then [] else n.held k := by
  cases hs : n.strategy with
  | strict =>
    refine ⟨n, by simp only [settle, hs, Strategy.amount], hn, hs, hn.held_of_strict hs key, ?_⟩
    intro k _ _
    rw [hn.held_of_strict hs k, ite_self]
  | cached size pos =>
    rw [hs] at hmax
    simp only [Strategy.amount] at hmax
    have hlist := Range.toList_endingAt c size
    cases ht : (Range.endingAt (c + size) size).take? with
    | none =>
      rw [Range.take?_eq_none_iff, hlist, List.range'_eq_nil_iff] at ht
      omega
    | some taken =>
      obtain ⟨v, rest⟩ := taken
      obtain ⟨hcons, hfits⟩ := Range.toList_of_take? (Range.fits_endingAt hmax) ht
      obtain ⟨left, rfl⟩ := Nat.exists_eq_succ_of_ne_zero (Nat.pos_iff_ne_zero.1 pos)
      rw [hlist, List.range'_succ, List.cons.injEq] at hcons
      obtain ⟨rfl, hrest⟩ := hcons
      refine ⟨n.keep key rest, ?_, (hn.filter _).insert hfits (by simp [hs]), hs, ?_, ?_⟩
      · simp only [settle, hs, Strategy.amount, ht]
      · rw [held_keep hkey hkey, if_pos rfl, ← hrest]
        rfl
      · intro k hk hne
        rw [held_keep hk hkey, if_neg (Ne.symm hne)]

/-! ### Numbers in order -/

/-- What the services and counters are after requests, if each was given the number after the last
one of its counter. -/
structure Follows (start : Store) (past : List CounterKey) (n : Numbering)
    (u : Recorded Store) : Prop where
  sound : n.Sound
  counter : ∀ k : CounterKey, k.Formed → u.place.counter k.text =
    start.counter k.text + n.strategy.amount * (past.count k ⌈/⌉ n.strategy.amount)
  log : ∀ k : CounterKey, k.Formed → u.log.count k = past.count k ⌈/⌉ n.strategy.amount
  held : ∀ k : CounterKey, k.Formed → IsLatest past k →
    n.held k = List.range' (start.counter k.text + past.count k + 1)
      (n.strategy.amount * (past.count k ⌈/⌉ n.strategy.amount) - past.count k)

variable {start : Store} {past : List CounterKey} {n n' : Numbering} {u u' : Recorded Store}
  {key : CounterKey}

lemma follows_new (strategy : Strategy) (start : Store) :
    Follows start [] (new strategy) (.of start) where
  sound := sound_new strategy
  counter _ _ := by simp [Recorded.of]
  log _ _ := by simp [Recorded.of]
  held k _ _ := by simp [Numbering.held, new]

/-- What a request has to do to the counter it asks, and what it may do to the others: give up the
numbers of other periods. -/
lemma Follows.of_step (h : Follows start past n u) (hn' : n'.Sound)
    (hs : n'.strategy = n.strategy)
    (hcounter : u'.place.counter key.text =
      start.counter key.text + n.strategy.amount * ((past.count key + 1) ⌈/⌉ n.strategy.amount))
    (hlog : u'.log.count key = (past.count key + 1) ⌈/⌉ n.strategy.amount)
    (hheld : n'.held key = List.range' (start.counter key.text + past.count key + 2)
      (n.strategy.amount * ((past.count key + 1) ⌈/⌉ n.strategy.amount) - (past.count key + 1)))
    (hother : ∀ k : CounterKey, k.Formed → k ≠ key →
      u'.place.counter k.text = u.place.counter k.text ∧ u'.log.count k = u.log.count k ∧
      (n'.held k = n.held k ∨ key.tenant = k.tenant ∧ key.label = k.label ∧ n'.held k = [])) :
    Follows start (past ++ [key]) n' u' := by
  have hself : (past ++ [key]).count key = past.count key + 1 := by simp
  have hcount : ∀ k, k ≠ key → (past ++ [key]).count k = past.count k := fun k hne => by
    simp [Ne.symm hne]
  refine ⟨hn', fun k hk => ?_, fun k hk => ?_, fun k hk hlatest => ?_⟩
  all_goals
    rw [hs]
    by_cases hne : k = key
  · rw [hne, hself, hcounter]
  · rw [hcount k hne, (hother k hk hne).1, h.counter k hk]
  · rw [hne, hself, hlog]
  · rw [hcount k hne, (hother k hk hne).2.1, h.log k hk]
  · rw [hne, hself, hheld]
    rfl
  · rw [hcount k hne]
    rcases (hother k hk hne).2.2 with heq | ⟨htenant, hlabel, hnil⟩
    · rw [heq, h.held k hk hlatest.of_append]
    · -- The series has left its other periods, so the latest one was never asked for.
      have hzero := List.count_eq_zero.2 (hlatest.notMem (Ne.symm hne) htenant hlabel)
      rw [hnil, hzero, zero_ceilDiv, Nat.mul_zero]
      rfl

/-- A number is left of the last range. -/
lemma Follows.draw (h : Follows start past n u) (hkey : key.Formed) (hlatest : IsLatest past key)
    {v : Nat} (hn' : n'.Sound) (hs : n'.strategy = n.strategy)
    (hheld : n.held key = v :: n'.held key)
    (hother : ∀ k, k.Formed → k ≠ key → n'.held k = n.held k) :
    v = start.counter key.text + past.count key + 1 ∧ Follows start (past ++ [key]) n' u := by
  have hrange := hheld.symm.trans (h.held key hkey hlatest)
  obtain ⟨left, hleft⟩ := Nat.exists_eq_succ_of_ne_zero (n := n.strategy.amount *
    (past.count key ⌈/⌉ n.strategy.amount) - past.count key) fun hzero => by
      rw [hzero] at hrange
      cases hrange
  rw [hleft, List.range'_succ, List.cons.injEq] at hrange
  obtain ⟨hv, hrest⟩ := hrange
  have hsame : (past.count key + 1) ⌈/⌉ n.strategy.amount =
      past.count key ⌈/⌉ n.strategy.amount := by
    rw [succ_ceilDiv n.strategy.amount_pos, if_neg (by omega)]
  refine ⟨hv, h.of_step hn' hs ?_ ?_ ?_ fun k hk hne => ⟨rfl, rfl, .inl (hother k hk hne)⟩⟩
  · rw [hsame, h.counter key hkey]
  · rw [hsame, h.log key hkey]
  · rw [hsame, hrest]
    congr 1
    omega

/-- All that was reserved is used up. -/
lemma Follows.reserve (h : Follows start past n u) (hkey : key.Formed)
    (hlatest : IsLatest past key) (hnil : n.held key = [])
    (hmax : start.counter key.text +
      n.strategy.amount * ((past.count key + 1) ⌈/⌉ n.strategy.amount) ≤ Text.maxWord) :
    ∃ answer n' u', Counters.increment key n.strategy.amount u = (answer, u') ∧
      n.settle key answer = (.ok (start.counter key.text + past.count key + 1), n') ∧
      n'.strategy = n.strategy ∧ Follows start (past ++ [key]) n' u' := by
  have hheld := h.held key hkey hlatest
  have hle := le_mul_ceilDiv n.strategy.amount_pos (past.count key)
  rw [hnil, eq_comm, List.range'_eq_nil_iff] at hheld
  have hused : n.strategy.amount * (past.count key ⌈/⌉ n.strategy.amount) = past.count key := by
    omega
  have hnext : (past.count key + 1) ⌈/⌉ n.strategy.amount =
      past.count key ⌈/⌉ n.strategy.amount + 1 := by
    rw [succ_ceilDiv n.strategy.amount_pos, if_pos hused]
  have hcounter : u.place.counter key.text = start.counter key.text + past.count key := by
    rw [h.counter key hkey, hused]
  rw [hnext, Nat.mul_succ, hused, ← Nat.add_assoc] at hmax
  obtain ⟨n', hsettle, hn', hs, hself, hother⟩ := settle_ok h.sound hkey hmax
  refine ⟨_, n', _, Recorded.increment_of_le (hcounter ▸ hmax), hcounter ▸ hsettle, hs,
    h.of_step hn' hs ?_ ?_ ?_ fun k hk hne => ⟨?_, ?_, ?_⟩⟩
  · rw [Store.counter_withCounter, if_pos rfl, hcounter, hnext, Nat.mul_succ, hused, Nat.add_assoc]
  · rw [List.count_append, h.log key hkey, hnext]
    simp
  · rw [hself, hnext, Nat.mul_succ, hused]
    congr 1
    omega
  · rw [Store.counter_withCounter,
      if_neg fun htext => hne (CounterKey.text_injective hkey hk htext)]
  · rw [List.count_append]
    simp [Ne.symm hne]
  · rw [hother k hk hne]
    split_ifs with hseries
    · exact .inr ⟨hseries.1, hseries.2, rfl⟩
    · exact .inl rfl

lemma Follows.allocate (h : Follows start past n u) (hkey : key.Formed)
    (hlatest : IsLatest past key)
    (hmax : start.counter key.text +
      n.strategy.amount * ((past.count key + 1) ⌈/⌉ n.strategy.amount) ≤ Text.maxWord) :
    ∃ n' u', n.allocate key u = (.ok (start.counter key.text + past.count key + 1), n', u') ∧
      n'.strategy = n.strategy ∧ Follows start (past ++ [key]) n' u' := by
  rw [allocate_eq]
  rcases fromMemory?_cases h.sound hkey with ⟨hnone, hnil⟩ | ⟨v, n', hsome, hn', hs, hheld, hother⟩
  · obtain ⟨answer, n', u', hincrement, hsettle, hs, hfollows⟩ := h.reserve hkey hlatest hnil hmax
    simp only [hnone, hincrement, hsettle]
    exact ⟨n', u', rfl, hs, hfollows⟩
  · obtain ⟨rfl, hfollows⟩ := h.draw hkey hlatest hn' hs hheld hother
    simp only [hsome]
    exact ⟨n', u, rfl, hs, hfollows⟩

/-- Whatever the strategy, every request is given the number after the last one of its counter. -/
lemma Follows.drawAll (requests : List Request) (h : Follows start past n u)
    (hreturn : NeverReturns (past ++ keys requests))
    (hmax : ∀ k ∈ keys requests, start.counter k.text +
      n.strategy.amount * ((past ++ keys requests).count k ⌈/⌉ n.strategy.amount) ≤
        Text.maxWord) :
    ∃ n' u', n.drawAll requests u =
        (answers (fun k => start.counter k.text) past requests, n', u') ∧
      n'.strategy = n.strategy ∧ Follows start (past ++ keys requests) n' u' := by
  induction requests generalizing past n u with
  | nil => exact ⟨n, u, rfl, rfl, by simpa [keys] using h⟩
  | cons r rest ih =>
    cases hkey : r.key with
    | error e =>
      have hkeys : keys (r :: rest) = keys rest := by simp [keys, hkey, Except.toOption]
      rw [hkeys] at hreturn hmax ⊢
      obtain ⟨n', u', hdraw, hs, hfollows⟩ := ih h hreturn hmax
      refine ⟨n', u', ?_, hs, hfollows⟩
      simp only [Numbering.drawAll, nextValue_of_key_error n hkey, hdraw, answers, hkey]
    | ok key =>
      have hkeys : keys (r :: rest) = key :: keys rest := by simp [keys, hkey, Except.toOption]
      have hformed : key.Formed := .of_make hkey
      rw [hkeys] at hreturn hmax ⊢
      have hcount : past.count key + 1 ≤ (past ++ key :: keys rest).count key := by
        simp only [List.count_append, List.count_cons_self]
        omega
      obtain ⟨n₁, u₁, hallocate, hs₁, hfollows₁⟩ := h.allocate hformed hreturn.isLatest
        (Nat.le_trans (Nat.add_le_add_left (Nat.mul_le_mul_left _
          (ceilDiv_mono n.strategy.amount_pos hcount)) _) (hmax key List.mem_cons_self))
      rw [List.append_cons] at hreturn hmax ⊢
      obtain ⟨n', u', hdraw, hs, hfollows⟩ := ih hfollows₁ hreturn fun k hk => by
        rw [hs₁]
        exact hmax k (List.mem_cons_of_mem key hk)
      refine ⟨n', u', ?_, hs.trans hs₁, hfollows⟩
      simp only [Numbering.drawAll, nextValue_of_key n hkey, hallocate, hdraw, answers, hkey]

end Numbering

end Tenancy
