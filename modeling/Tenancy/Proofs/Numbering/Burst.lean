import Mathlib.Algebra.Order.BigOperators.Group.Finset
import Mathlib.Data.Fintype.BigOperators
import Mathlib.Logic.Function.Basic
import Tenancy.Proofs.Numbering.Requests

/-!
# Requests for numbers at once

Under the cached strategy a service holds a lock while it waits for a counter; under the strict one
there is none. A burst carries out requests at once: each moves on as far as it comes before it has
to wait, in whatever order. `linear_run`: what the requests are given, and what is left at the end,
is as if they were made one after another. `isDone_of_rounds`: none of them waits for ever.
-/

namespace Tenancy.Numbering

/-- How far a request is that is carried out together with others. -/
inductive Progress
  /-- It has not begun, or waits for the lock. -/
  | waiting
  /-- It has asked the counter. -/
  | asking (key : CounterKey)
  /-- The counter has answered. -/
  | answered (key : CounterKey) (answer : Except NumberingError Nat)
  | done (result : Except NumberingError Nat)

namespace Progress

/-- Whether a request has asked the counter and not gone on since. -/
def isInside : Progress → Bool
  | .asking _ | .answered .. => true
  | .waiting | .done _ => false

/-- Whether the counter has done what it does for a request. -/
def isSettled : Progress → Bool
  | .answered .. | .done _ => true
  | .waiting | .asking _ => false

/-- How many moves a request needs at most. -/
def rest : Progress → Nat
  | .waiting => 3
  | .asking _ => 2
  | .answered .. => 1
  | .done _ => 0

end Progress

/-- A service, its counters, and requests that are carried out at once. -/
structure Burst (ι σ : Type) where
  numbering : Numbering
  counters : σ
  /-- The request that holds the lock. -/
  holder : Option ι
  progress : ι → Progress

namespace Burst

variable {ι σ : Type} {b b' : Burst ι σ} {i j : ι}

/-- Nothing has begun. -/
def start (numbering : Numbering) (counters : σ) : Burst ι σ :=
  ⟨numbering, counters, none, fun _ => .waiting⟩

/-- What a request is given, once that is certain. -/
def result? (b : Burst ι σ) (i : ι) : Option (Except NumberingError Nat) :=
  match b.progress i with
  | .waiting | .asking _ => none
  | .answered key answer => some (b.numbering.settle key answer).1
  | .done result => some result

/-- The service after the request that holds the lock has gone on. -/
def settled (b : Burst ι σ) : Numbering :=
  match b.holder.map b.progress with
  | some (.answered key answer) => (b.numbering.settle key answer).2
  | _ => b.numbering

/-- All requests are done. -/
def IsDone (b : Burst ι σ) : Prop := ∀ i, ∃ result, b.progress i = .done result

/-- All requests are done, and were given the numbers after `last`, each one of them. -/
def IsConsecutive (b : Burst ι σ) (last : Nat) : Prop :=
  ∃ order : List ι, order.Nodup ∧ (∀ i, i ∈ order) ∧
    order.map b.progress = (List.range' (last + 1) order.length).map fun v => .done (.ok v)

lemma result?_congr (hp : b'.progress j = b.progress j)
    (hn : (b.progress j).isInside = true → b'.numbering = b.numbering) :
    b'.result? j = b.result? j := by
  simp only [result?, hp]
  cases hj : b.progress j with
  | answered key answer => rw [hn (by rw [hj]; rfl)]
  | _ => rfl

lemma settled_of_free (h : b.holder = none) : b.settled = b.numbering := by
  simp only [settled, h, Option.map_none]

/-! ### Moves -/

section Moves

variable [DecidableEq ι]

/-- Takes a request to where it is next. -/
def goto (b : Burst ι σ) (i : ι) (p : Progress) : Burst ι σ :=
  { b with progress := Function.update b.progress i p }

@[simp]
lemma progress_goto_self (b : Burst ι σ) (i : ι) (p : Progress) : (b.goto i p).progress i = p :=
  Function.update_self ..

lemma progress_goto_of_ne (b : Burst ι σ) (p : Progress) (h : j ≠ i) :
    (b.goto i p).progress j = b.progress j :=
  Function.update_of_ne h ..

lemma settled_goto (p : Progress) (h : b.holder ≠ some i) : (b.goto i p).settled = b.settled := by
  simp only [settled, goto]
  cases hj : b.holder with
  | none => rfl
  | some j =>
    rw [Option.map_some, Option.map_some,
      Function.update_of_ne fun heq => h (hj.trans (congrArg some heq))]

/-- A request begins. Under the cached strategy it waits for the lock, and is done with it at once
if a number is in memory. -/
def enter (b : Burst ι σ) (i : ι) (key : CounterKey) : Burst ι σ :=
  match b.numbering.strategy with
  | .strict => b.goto i (.asking key)
  | .cached _ _ =>
    if b.holder.isSome then b
    else match b.numbering.draw? key with
      | some (value, numbering) => { b with numbering }.goto i (.done (.ok value))
      | none => { b with holder := some i }.goto i (.asking key)

variable [Counters σ] {requests : ι → Request}

/-- Request `i` moves on, unless it waits for the lock or is done. -/
def step (requests : ι → Request) (b : Burst ι σ) (i : ι) : Burst ι σ :=
  match b.progress i with
  | .waiting =>
    match (requests i).key with
    | .error e => b.goto i (.done (.error (.sequence e)))
    | .ok key => b.enter i key
  | .asking key =>
    let (answer, counters) := Counters.increment key b.numbering.strategy.amount b.counters
    { b with counters }.goto i (.answered key answer)
  | .answered key answer =>
    let (result, numbering) := b.numbering.settle key answer
    { b with numbering, holder := none }.goto i (.done result)
  | .done _ => b

/-- Requests move on in the order of a schedule. -/
def run (requests : ι → Request) (b : Burst ι σ) (schedule : List ι) : Burst ι σ :=
  schedule.foldl (step requests) b

/-- What a move can be. -/
inductive Moved (requests : ι → Request) (b : Burst ι σ) (i : ι) : Burst ι σ → Prop
  | ended {result} (hi : b.progress i = .done result) : Moved requests b i b
  | kept (hi : b.progress i = .waiting) (hs : b.numbering.strategy ≠ .strict)
      (hheld : b.holder.isSome) : Moved requests b i b
  | refused {e} (hi : b.progress i = .waiting) (hkey : (requests i).key = .error e) :
      Moved requests b i (b.goto i (.done (.error (.sequence e))))
  | asked {key} (hi : b.progress i = .waiting) (hkey : (requests i).key = .ok key)
      (hs : b.numbering.strategy = .strict) : Moved requests b i (b.goto i (.asking key))
  | locked {key} (hi : b.progress i = .waiting) (hkey : (requests i).key = .ok key)
      (hs : b.numbering.strategy ≠ .strict) (hfree : b.holder = none)
      (hnone : b.numbering.fromMemory? key = none) :
      Moved requests b i ({ b with holder := some i }.goto i (.asking key))
  | drawn {key value numbering} (hi : b.progress i = .waiting)
      (hkey : (requests i).key = .ok key) (hs : b.numbering.strategy ≠ .strict)
      (hfree : b.holder = none) (hsome : b.numbering.fromMemory? key = some (value, numbering))
      (hs' : numbering.strategy = b.numbering.strategy) :
      Moved requests b i ({ b with numbering }.goto i (.done (.ok value)))
  | increased {key answer counters} (hi : b.progress i = .asking key)
      (hincrement : Counters.increment key b.numbering.strategy.amount b.counters =
        (answer, counters)) : Moved requests b i ({ b with counters }.goto i (.answered key answer))
  | finished {key answer result numbering} (hi : b.progress i = .answered key answer)
      (hsettle : b.numbering.settle key answer = (result, numbering)) :
      Moved requests b i ({ b with numbering, holder := none }.goto i (.done result))

lemma Moved.of_step (requests : ι → Request) (b : Burst ι σ) (i : ι) :
    Moved requests b i (b.step requests i) := by
  unfold step
  split
  next hi =>
    split
    next e hkey => exact .refused hi hkey
    next key hkey =>
      cases hs : b.numbering.strategy with
      | strict =>
        simp only [enter, hs]
        exact .asked hi hkey hs
      | cached size pos =>
        have hs' : b.numbering.strategy ≠ .strict := by simp [hs]
        have hmemory : b.numbering.fromMemory? key = b.numbering.draw? key := by
          simp only [fromMemory?, hs]
        simp only [enter, hs]
        split_ifs with hheld
        · exact .kept hi hs' hheld
        · rcases b.numbering.draw?_cases key with ⟨hnone, -⟩ | ⟨_, _, _, -, -, hsome⟩
          · simp only [hnone]
            exact .locked hi hkey hs' (by simpa using hheld) (hmemory.trans hnone)
          · simp only [hsome]
            exact .drawn hi hkey hs' (by simpa using hheld) (hmemory.trans hsome) rfl
  next key hi => exact .increased hi rfl
  next key answer hi => exact .finished hi rfl
  next result hi => exact .ended hi

end Moves

/-! ### The lock -/

/-- Under the cached strategy the one that holds the lock is the one that has asked the counter, and
memory has no number for it; under the strict one nobody holds the lock. -/
structure Locked (requests : ι → Request) (b : Burst ι σ) : Prop where
  asking : ∀ i key, b.progress i = .asking key →
    (requests i).key = .ok key ∧ b.numbering.fromMemory? key = none
  inside : b.numbering.strategy ≠ .strict → ∀ i,
    (b.progress i).isInside = true ↔ b.holder = some i
  free : b.numbering.strategy = .strict → b.holder = none

lemma locked_start (requests : ι → Request) (n : Numbering) (counters : σ) :
    Locked requests (start n counters) where
  asking _ _ h := by cases h
  inside _ _ := by simp [start, Progress.isInside]
  free _ := rfl

variable {requests : ι → Request}

/-- What was given stays as it is, if the service changes only while nobody else is inside. -/
lemma Locked.result?_eq (h : Locked requests b) (hp : b'.progress j = b.progress j)
    (hstrict : b.numbering.strategy = .strict → b'.numbering = b.numbering)
    (hcached : b.numbering.strategy ≠ .strict → b.holder ≠ some j) :
    b'.result? j = b.result? j := by
  refine result?_congr hp fun hinside => ?_
  by_cases hs : b.numbering.strategy = .strict
  · exact hstrict hs
  · exact absurd ((h.inside hs j).1 hinside) (hcached hs)

lemma Locked.holder_ne (h : Locked requests b) (hi : (b.progress i).isInside = false) :
    b.holder ≠ some i := by
  intro hsome
  by_cases hs : b.numbering.strategy = .strict
  · rw [h.free hs] at hsome
    cases hsome
  · rw [(h.inside hs i).2 hsome] at hi
    cases hi

lemma Locked.settled_of_asking (h : Locked requests b) {key : CounterKey}
    (hi : b.progress i = .asking key) : b.settled = b.numbering := by
  by_cases hs : b.numbering.strategy = .strict
  · exact settled_of_free (h.free hs)
  · have hholder : b.holder = some i := (h.inside hs i).1 (by rw [hi]; rfl)
    simp only [settled, hholder, Option.map_some, hi]

lemma Locked.settled_of_answered (h : Locked requests b) {key : CounterKey}
    {answer : Except NumberingError Nat} (hi : b.progress i = .answered key answer) :
    b.settled = (b.numbering.settle key answer).2 := by
  by_cases hs : b.numbering.strategy = .strict
  · rw [settled_of_free (h.free hs)]
    simp only [settle, hs]
  · have hholder : b.holder = some i := (h.inside hs i).1 (by rw [hi]; rfl)
    simp only [settled, hholder, Option.map_some, hi]

variable [DecidableEq ι] [Counters σ]

lemma strategy_settle (n : Numbering) (key : CounterKey) (answer : Except NumberingError Nat) :
    (n.settle key answer).2.strategy = n.strategy := by
  unfold settle
  split
  · rfl
  · rfl
  · split <;> rfl

lemma Moved.progress_of_ne (h : Moved requests b i b') (hne : j ≠ i) :
    b'.progress j = b.progress j := by
  cases h with
  | ended | kept => rfl
  | _ => exact progress_goto_of_ne _ _ hne

lemma Moved.strategy (h : Moved requests b i b') :
    b'.numbering.strategy = b.numbering.strategy := by
  cases h with
  | ended | kept | refused | asked | locked | increased => rfl
  | drawn _ _ _ _ _ hs => exact hs
  | @finished key answer _ _ _ hsettle =>
    have hs := strategy_settle b.numbering key answer
    rw [hsettle] at hs
    exact hs

/-- The service changes only when the request draws from memory or goes on. -/
lemma Moved.fromMemory?_of_ne (hm : Moved requests b i b') (h : Locked requests b) (hne : j ≠ i)
    {key : CounterKey} (hj : b.progress j = .asking key) :
    b'.numbering.fromMemory? key = none := by
  have hinside : (b.progress j).isInside = true := by
    rw [hj]
    rfl
  cases hm with
  | ended | kept | refused | asked | locked | increased => exact (h.asking j key hj).2
  | drawn _ _ hs hfree _ _ =>
    have hholder := (h.inside hs j).1 hinside
    rw [hfree] at hholder
    cases hholder
  | @finished key' answer result numbering hi hsettle =>
    by_cases hs : b.numbering.strategy = .strict
    · have hs' : numbering.strategy = .strict := by
        rw [← hs, ← strategy_settle b.numbering key' answer, hsettle]
      simp only [goto, fromMemory?, hs']
    · have hi' : (b.progress i).isInside = true := by
        rw [hi]
        rfl
      have hij := ((h.inside hs i).1 hi').symm.trans ((h.inside hs j).1 hinside)
      exact absurd (Option.some.inj hij).symm hne

/-- The one that moves is inside exactly if it holds the lock then. -/
lemma Moved.inside_self (hm : Moved requests b i b') (h : Locked requests b)
    (hs : b.numbering.strategy ≠ .strict) :
    (b'.progress i).isInside = true ↔ b'.holder = some i := by
  have hinside := h.inside hs i
  cases hm with
  | ended | kept => exact hinside
  | asked _ _ hs' => exact absurd hs' hs
  | refused hi =>
    rw [hi] at hinside
    rw [progress_goto_self]
    exact hinside
  | locked => simp [goto, Progress.isInside]
  | drawn _ _ _ hfree => simp [goto, Progress.isInside, hfree]
  | increased hi =>
    rw [hi] at hinside
    rw [progress_goto_self]
    exact hinside
  | finished => simp [goto, Progress.isInside]

/-- It neither takes the lock from another one nor gives it to another one. -/
lemma Moved.holder_of_ne (hm : Moved requests b i b') (h : Locked requests b)
    (hs : b.numbering.strategy ≠ .strict) (hne : j ≠ i) :
    b'.holder = some j ↔ b.holder = some j := by
  cases hm with
  | ended | kept | refused | asked | drawn | increased => exact Iff.rfl
  | locked _ _ _ hfree _ => simp [goto, hfree, Ne.symm hne]
  | finished hi =>
    have hholder : b.holder = some i := (h.inside hs i).1 (by rw [hi]; rfl)
    simp [goto, hholder, Ne.symm hne]

lemma Locked.moved (h : Locked requests b) (hm : Moved requests b i b') :
    Locked requests b' := by
  have hstrategy := hm.strategy
  refine ⟨fun j key hj => ?_, fun hs j => ?_, fun hs => ?_⟩
  · by_cases hji : j = i
    · subst hji
      cases hm with
      | ended | kept => exact h.asking j key hj
      | asked _ hkey hs =>
        rw [progress_goto_self, Progress.asking.injEq] at hj
        subst hj
        exact ⟨hkey, by simp only [goto, fromMemory?, hs]⟩
      | locked _ hkey _ _ hnone =>
        rw [progress_goto_self, Progress.asking.injEq] at hj
        subst hj
        exact ⟨hkey, hnone⟩
      | _ =>
        rw [progress_goto_self] at hj
        cases hj
    · rw [hm.progress_of_ne hji] at hj
      exact ⟨(h.asking j key hj).1, hm.fromMemory?_of_ne h hji hj⟩
  · rw [hstrategy] at hs
    by_cases hji : j = i
    · subst hji
      exact hm.inside_self h hs
    · rw [hm.progress_of_ne hji, hm.holder_of_ne h hs hji]
      exact h.inside hs j
  · rw [hstrategy] at hs
    cases hm with
    | finished => rfl
    | locked _ _ hs' => exact absurd hs hs'
    | _ => exact h.free hs

/-! ### One after another -/

/-- What is and what was given is as if the requests in `order` had been made one after another. -/
structure Linear (requests : ι → Request) (n : Numbering) (counters : σ) (b : Burst ι σ)
    (order : List ι) : Prop where
  nodup : order.Nodup
  mem : ∀ i, i ∈ order ↔ (b.progress i).isSettled = true
  replay : ∃ results, n.drawAll (order.map requests) counters =
    (results, b.settled, b.counters) ∧ order.map b.result? = results.map some

variable {n : Numbering} {counters : σ} {order : List ι}

omit [DecidableEq ι] in
lemma linear_start (requests : ι → Request) (n : Numbering) (counters : σ) :
    Linear requests n counters (start n counters) [] where
  nodup := List.nodup_nil
  mem _ := by simp [start, Progress.isSettled]
  replay := ⟨[], rfl, rfl⟩

/-- The next request takes effect. -/
lemma Linear.effect (h : Linear requests n counters b order) (hm : Moved requests b i b')
    (hi : (b.progress i).isSettled = false) (hi' : (b'.progress i).isSettled = true)
    {r : Except NumberingError Nat}
    (hnext : b.settled.nextValue (requests i).tenant (requests i).sequence (requests i).date
      b.counters = (r, b'.settled, b'.counters))
    (hr : b'.result? i = some r) (hother : ∀ j, j ≠ i → b'.result? j = b.result? j) :
    Linear requests n counters b' (order ++ [i]) := by
  have hnew : i ∉ order := by
    rw [h.mem, hi]
    exact Bool.false_ne_true
  obtain ⟨results, hdraw, hresults⟩ := h.replay
  refine ⟨List.nodup_append.2 ⟨h.nodup, List.nodup_singleton i, ?_⟩, fun j => ?_,
    results ++ [r], ?_, ?_⟩
  · rintro j hj k hk rfl
    exact hnew (List.mem_singleton.1 hk ▸ hj)
  · rw [List.mem_append, List.mem_singleton]
    by_cases hji : j = i
    · simp [hji, hi']
    · simp [hji, hm.progress_of_ne hji, h.mem]
  · simp only [List.map_append, drawAll_append, hdraw, List.map_cons, List.map_nil, drawAll, hnext]
  · have hsame : order.map b'.result? = order.map b.result? :=
      List.map_congr_left fun j hj => hother j fun hji => hnew (hji ▸ hj)
    rw [List.map_append, List.map_append, hsame, hresults, List.map_singleton, hr,
      List.map_singleton]

/-- No request takes effect. -/
lemma Linear.noEffect (h : Linear requests n counters b order) (hm : Moved requests b i b')
    (hi : (b'.progress i).isSettled = (b.progress i).isSettled)
    (hsettled : b'.settled = b.settled) (hcounters : b'.counters = b.counters)
    (hother : ∀ j, (b.progress j).isSettled = true → b'.result? j = b.result? j) :
    Linear requests n counters b' order := by
  refine ⟨h.nodup, fun j => ?_, ?_⟩
  · by_cases hji : j = i
    · rw [hji, hi, h.mem]
    · rw [hm.progress_of_ne hji, h.mem]
  · rw [hsettled, hcounters, List.map_congr_left fun j hj => hother j ((h.mem j).1 hj)]
    exact h.replay

/-- A request that draws from memory takes effect at once. -/
lemma Linear.drawn (h : Linear requests n counters b order) (hl : Locked requests b)
    {key : CounterKey} {value : Nat} {numbering : Numbering}
    (hm : Moved requests b i ({ b with numbering }.goto i (.done (.ok value))))
    (hi : b.progress i = .waiting) (hkey : (requests i).key = .ok key)
    (hs : b.numbering.strategy ≠ .strict) (hfree : b.holder = none)
    (hsome : b.numbering.fromMemory? key = some (value, numbering)) :
    Linear requests n counters ({ b with numbering }.goto i (.done (.ok value)))
      (order ++ [i]) := by
  refine h.effect (r := .ok value) hm (by rw [hi]; rfl) (by rw [progress_goto_self]; rfl) ?_
    (by simp only [result?, progress_goto_self]) fun j hji => ?_
  · have hsettled : ({ b with numbering }.goto i (.done (.ok value))).settled = numbering :=
      settled_of_free hfree
    rw [hsettled, settled_of_free hfree, nextValue_of_key _ hkey, allocate_eq, hsome]
    rfl
  · refine hl.result?_eq (progress_goto_of_ne _ _ hji) (fun hs' => absurd hs' hs) fun _ => ?_
    rw [hfree]
    exact Option.some_ne_none j |>.symm

/-- A request that asks the counter takes effect when the counter is increased. -/
lemma Linear.increased (h : Linear requests n counters b order) (hl : Locked requests b)
    {key : CounterKey} {answer : Except NumberingError Nat} {counters' : σ}
    (hm : Moved requests b i ({ b with counters := counters' }.goto i (.answered key answer)))
    (hi : b.progress i = .asking key)
    (hincrement : Counters.increment key b.numbering.strategy.amount b.counters =
      (answer, counters')) :
    Linear requests n counters ({ b with counters := counters' }.goto i (.answered key answer))
      (order ++ [i]) := by
  obtain ⟨hkey, hnone⟩ := hl.asking i key hi
  have hsettled := (hl.moved hm).settled_of_answered (progress_goto_self ..)
  refine h.effect (r := (b.numbering.settle key answer).1) hm (by rw [hi]; rfl)
    (by rw [progress_goto_self]; rfl) ?_ (by simp only [result?, progress_goto_self]; rfl)
    fun j hji => result?_congr (progress_goto_of_ne _ _ hji) fun _ => rfl
  rw [hsettled, hl.settled_of_asking hi, nextValue_of_key _ hkey, allocate_eq, hnone]
  simp only [hincrement, goto]

/-- When a request goes on with what the counter has answered, that makes no difference any more. -/
lemma Linear.finished (h : Linear requests n counters b order) (hl : Locked requests b)
    {key : CounterKey} {answer result : Except NumberingError Nat} {numbering : Numbering}
    (hm : Moved requests b i ({ b with numbering, holder := none }.goto i (.done result)))
    (hi : b.progress i = .answered key answer)
    (hsettle : b.numbering.settle key answer = (result, numbering)) :
    Linear requests n counters ({ b with numbering, holder := none }.goto i (.done result))
      order := by
  refine h.noEffect hm (by rw [hi, progress_goto_self]; rfl) ?_ rfl fun j _ => ?_
  · rw [hl.settled_of_answered hi, hsettle]
    exact settled_of_free rfl
  · by_cases hji : j = i
    · subst hji
      simp only [result?, progress_goto_self, hi, hsettle]
    · refine hl.result?_eq (progress_goto_of_ne _ _ hji) (fun hs => ?_) fun hs hholder => ?_
      · have hnumbering := congrArg Prod.snd hsettle
        simp only [settle, hs] at hnumbering
        exact hnumbering.symm
      · have hi' : b.holder = some i := (hl.inside hs i).1 (by rw [hi]; rfl)
        exact hji (Option.some.inj (hholder.symm.trans hi'))

lemma Linear.moved (h : Linear requests n counters b order) (hl : Locked requests b)
    (hm : Moved requests b i b') : ∃ order', Linear requests n counters b' order' := by
  have hl' := hl.moved hm
  have hm' := hm
  -- A request that begins changes nothing for those that have taken effect.
  have hsame (hi : b.progress i = .waiting) (hn : b'.numbering = b.numbering) (j)
      (hj : (b.progress j).isSettled = true) : b'.result? j = b.result? j := by
    refine result?_congr (hm'.progress_of_ne fun hji => ?_) fun _ => hn
    rw [hji, hi] at hj
    cases hj
  have hholder (hi : b.progress i = .waiting) : b.holder ≠ some i :=
    hl.holder_ne (by rw [hi]; rfl)
  cases hm with
  | ended | kept => exact ⟨order, h⟩
  | @refused e hi hkey =>
    refine ⟨order ++ [i], h.effect (r := .error (.sequence e)) hm' (by rw [hi]; rfl)
      (by rw [progress_goto_self]; rfl) ?_ (by simp only [result?, progress_goto_self])
      fun j hji => result?_congr (progress_goto_of_ne _ _ hji) fun _ => rfl⟩
    rw [settled_goto _ (hholder hi), nextValue_of_key_error _ hkey]
    rfl
  | asked hi =>
    exact ⟨order, h.noEffect hm' (by rw [hi, progress_goto_self]; rfl)
      (settled_goto _ (hholder hi)) rfl (hsame hi rfl)⟩
  | locked hi _ _ hfree _ =>
    refine ⟨order, h.noEffect hm' (by rw [hi, progress_goto_self]; rfl) ?_ rfl (hsame hi rfl)⟩
    rw [hl'.settled_of_asking (progress_goto_self ..), settled_of_free hfree]
    rfl
  | drawn hi hkey hs hfree hsome _ => exact ⟨_, h.drawn hl hm' hi hkey hs hfree hsome⟩
  | increased hi hincrement => exact ⟨_, h.increased hl hm' hi hincrement⟩
  | finished hi hsettle => exact ⟨_, h.finished hl hm' hi hsettle⟩

lemma Locked.run (h : Locked requests b) (schedule : List ι) :
    Locked requests (b.run requests schedule) := by
  induction schedule generalizing b with
  | nil => exact h
  | cons i schedule ih => exact ih (h.moved (.of_step ..))

/-- However requests move on at once, it is as if they were made one after another. -/
theorem linear_run (requests : ι → Request) (n : Numbering) (counters : σ) (schedule : List ι) :
    ∃ order, Linear requests n counters ((start n counters).run requests schedule) order := by
  induction schedule using List.reverseRecOn with
  | nil => exact ⟨[], linear_start requests n counters⟩
  | append_singleton schedule i ih =>
    obtain ⟨order, h⟩ := ih
    rw [run, List.foldl_concat]
    exact h.moved ((locked_start requests n counters).run schedule) (.of_step ..)

/-! ### No request waits for ever -/

section Rounds

variable [Fintype ι]

/-- How many moves are left at most. -/
def rest (b : Burst ι σ) : Nat :=
  ∑ i, (b.progress i).rest

omit [DecidableEq ι] [Counters σ] in
lemma isDone_of_rest (h : b.rest = 0) : b.IsDone := by
  intro i
  have hi := Finset.sum_eq_zero_iff.1 h i (Finset.mem_univ i)
  cases hp : b.progress i with
  | done result => exact ⟨result, rfl⟩
  | _ =>
    rw [hp] at hi
    cases hi

/-- Whether a request stays where it is when it ought to move: it is done, or waits for the lock. -/
def Stuck (b : Burst ι σ) (i : ι) : Prop :=
  (∃ result, b.progress i = .done result) ∨
    b.progress i = .waiting ∧ b.numbering.strategy ≠ .strict ∧ b.holder.isSome = true

/-- A move takes a request nearer to its end, unless the request is stuck. -/
lemma Moved.stuck_or_rest_lt (hm : Moved requests b i b') :
    b' = b ∧ b.Stuck i ∨ b'.rest < b.rest := by
  have hlt (hi : (b'.progress i).rest < (b.progress i).rest) : b'.rest < b.rest := by
    refine Finset.sum_lt_sum (fun j _ => ?_) ⟨i, Finset.mem_univ i, hi⟩
    by_cases hji : j = i
    · exact hji ▸ hi.le
    · rw [hm.progress_of_ne hji]
  cases hm with
  | ended hi => exact .inl ⟨rfl, .inl ⟨_, hi⟩⟩
  | kept hi hs hheld => exact .inl ⟨rfl, .inr ⟨hi, hs, hheld⟩⟩
  | refused hi | asked hi | locked hi | drawn hi | increased hi | finished hi =>
    refine .inr (hlt ?_)
    rw [hi, progress_goto_self]
    simp [Progress.rest]

omit [DecidableEq ι] [Counters σ] in
/-- If all requests are stuck, all are done: the one that holds the lock could move. -/
lemma Locked.rest_eq_zero (h : Locked requests b) (hstuck : ∀ i, b.Stuck i) : b.rest = 0 := by
  refine Finset.sum_eq_zero fun i _ => ?_
  rcases hstuck i with ⟨result, hi⟩ | ⟨-, hs, hheld⟩
  · rw [hi]
    rfl
  · obtain ⟨j, hj⟩ := Option.isSome_iff_exists.1 hheld
    have hinside := (h.inside hs j).2 hj
    rcases hstuck j with ⟨result, hdone⟩ | ⟨hwaiting, -, -⟩
    · rw [hdone] at hinside
      cases hinside
    · rw [hwaiting] at hinside
      cases hinside

/-- In a part of a schedule somebody moves, or all that it names are stuck. -/
lemma stuck_or_rest_lt_run (requests : ι → Request) (b : Burst ι σ) (part : List ι) :
    b.run requests part = b ∧ (∀ i ∈ part, b.Stuck i) ∨
      (b.run requests part).rest < b.rest := by
  induction part generalizing b with
  | nil => exact .inl ⟨rfl, fun i hi => by cases hi⟩
  | cons i part ih =>
    have hcons : b.run requests (i :: part) = (b.step requests i).run requests part := rfl
    rw [hcons]
    rcases (Moved.of_step requests b i).stuck_or_rest_lt with ⟨heq, hi⟩ | hlt
    · rw [heq]
      rcases ih b with ⟨hrun, hstuck⟩ | hlt
      · refine .inl ⟨hrun, fun j hj => ?_⟩
        rcases List.mem_cons.1 hj with rfl | hj
        · exact hi
        · exact hstuck j hj
      · exact .inr hlt
    · rcases ih (b.step requests i) with ⟨hrun, -⟩ | hlt'
      · rw [hrun]
        exact .inr hlt
      · exact .inr (hlt'.trans hlt)

/-- In a round everybody gets the chance to move. -/
lemma Locked.rest_run_lt (h : Locked requests b) {round : List ι} (hall : ∀ i, i ∈ round)
    (hrest : b.rest ≠ 0) : (b.run requests round).rest < b.rest := by
  rcases stuck_or_rest_lt_run requests b round with ⟨-, hstuck⟩ | hlt
  · exact absurd (h.rest_eq_zero fun i => hstuck i (hall i)) hrest
  · exact hlt

lemma Locked.rest_rounds (h : Locked requests b) {rounds : List (List ι)}
    (hall : ∀ round ∈ rounds, ∀ i, i ∈ round) (hlength : b.rest ≤ rounds.length) :
    (b.run requests rounds.flatten).rest = 0 := by
  induction rounds generalizing b with
  | nil => exact Nat.le_zero.1 hlength
  | cons round rounds ih =>
    have hsplit : b.run requests (round :: rounds).flatten =
        (b.run requests round).run requests rounds.flatten := List.foldl_append
    rw [hsplit]
    refine ih (h.run round) (fun r hr => hall r (List.mem_cons_of_mem round hr)) ?_
    rw [List.length_cons] at hlength
    by_cases hrest : b.rest = 0
    · rcases stuck_or_rest_lt_run requests b round with ⟨heq, -⟩ | hlt
      · rw [heq, hrest]
        exact Nat.zero_le _
      · omega
    · have := h.rest_run_lt (hall round List.mem_cons_self) hrest
      omega

/-- If everybody gets the chance to move three times for each request, all requests are done. -/
theorem isDone_of_rounds (requests : ι → Request) (n : Numbering) (counters : σ)
    {rounds : List (List ι)} (hall : ∀ round ∈ rounds, ∀ i, i ∈ round)
    (hlength : 3 * Fintype.card ι ≤ rounds.length) :
    ((start n counters).run requests rounds.flatten).IsDone := by
  have hrest : (start n counters : Burst ι σ).rest = 3 * Fintype.card ι := by
    simp [rest, start, Progress.rest, Nat.mul_comm]
  exact isDone_of_rest ((locked_start requests n counters).rest_rounds hall (hrest ▸ hlength))

end Rounds

end Burst

end Tenancy.Numbering
