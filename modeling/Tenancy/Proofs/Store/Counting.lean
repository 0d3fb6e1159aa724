import Mathlib.Algebra.BigOperators.Group.List.Basic
import Mathlib.Algebra.GroupWithZero.Nat
import Mathlib.Data.List.DropRight
import Mathlib.Order.Interval.Finset.Nat
import Tenancy.Proofs.Numbering.Allocation

/-!
# Counters over a history

Each change of a counter is a transaction, so that the changes of several writers follow each other
in some order. Whatever the order is, the value of a counter can be told from what was recorded of
the calls: the value that was set last, and all that was added to it since (`Counted`). The calls on
one counter are recorded as if there were no calls on others: `filter_log`.
-/

namespace Tenancy.Store

/-! ### Calls and what is recorded of them -/

/-- A change of a counter that is asked for. -/
inductive CounterCall
  | increment (key : String) (amount : ℕ)
  | set (key : String) (value : ℕ)
  deriving DecidableEq, Repr

/-- The counter that a call is about. -/
def CounterCall.key : CounterCall → String
  | .increment key _ => key
  | .set key _ => key

/-- A call with what it gave. -/
inductive CounterEntry
  | increment (key : String) (amount : ℕ) (result : Except StoreError ℕ)
  | set (key : String) (value : ℕ) (result : Except StoreError Unit)

namespace CounterEntry

/-- The counter that an entry is about. -/
def key : CounterEntry → String
  | increment key _ _ => key
  | set key _ _ => key

/-- The value that a counter was set to. -/
def setTo? (k : String) : CounterEntry → Option ℕ
  | set key value (.ok _) => if key = k then some value else none
  | _ => none

/-- What was added to a counter: nothing, if the increment failed. -/
def added (k : String) : CounterEntry → ℕ
  | increment key amount (.ok _) => if key = k then amount else 0
  | _ => 0

/-- The values that an increment passed: those above the first bound, up to the second. -/
def window? (k : String) : CounterEntry → Option (ℕ × ℕ)
  | increment key amount (.ok result) => if key = k then some (result - amount, result) else none
  | _ => none

end CounterEntry

/-- Carries out a call. -/
def perform (s : Store) : CounterCall → CounterEntry × Store
  | .increment key amount =>
    let r := s.increment key amount
    (.increment key amount r.1, r.2)
  | .set key value =>
    let r := s.set key value
    (.set key value r.1, r.2)

/-- The store after calls. -/
def after (s : Store) : List CounterCall → Store
  | [] => s
  | call :: calls => after (s.perform call).2 calls

/-- What is recorded of calls. -/
def log (s : Store) : List CounterCall → List CounterEntry
  | [] => []
  | call :: calls => (s.perform call).1 :: log (s.perform call).2 calls

variable {s s' : Store} {calls : List CounterCall} {key k : String} {e : CounterEntry}
  {entries : List CounterEntry}

lemma set_eq (s : Store) (key : String) (value : ℕ) :
    s.set key value = (.ok (), s.withCounter key value) := rfl

lemma after_concat (s : Store) (calls : List CounterCall) (call : CounterCall) :
    s.after (calls ++ [call]) = ((s.after calls).perform call).2 := by
  induction calls generalizing s with
  | nil => rfl
  | cons c calls ih => exact ih _

lemma log_concat (s : Store) (calls : List CounterCall) (call : CounterCall) :
    s.log (calls ++ [call]) = s.log calls ++ [((s.after calls).perform call).1] := by
  induction calls generalizing s with
  | nil => rfl
  | cons c calls ih => exact congrArg (_ :: ·) (ih _)

/-! ### What the entries tell of a counter -/

/-- The entries since a counter was last set. -/
def sinceSet (k : String) (entries : List CounterEntry) : List CounterEntry :=
  entries.rtakeWhile fun e => (e.setTo? k).isNone

/-- The value that a counter was last set to; the one at the start, if it was never set. -/
def base (start : ℕ) (k : String) (entries : List CounterEntry) : ℕ :=
  (entries.filterMap (·.setTo? k)).getLast?.getD start

/-- The sum of what was added to a counter since it was last set. -/
def gained (k : String) (entries : List CounterEntry) : ℕ :=
  ((sinceSet k entries).map (·.added k)).sum

/-- The values that the increments of a counter passed since it was last set. -/
def windows (k : String) (entries : List CounterEntry) : List (ℕ × ℕ) :=
  (sinceSet k entries).filterMap (·.window? k)

/-- Intervals of which each begins where the one before ends. -/
def Consecutive : ℕ → List (ℕ × ℕ) → ℕ → Prop
  | low, [], high => low = high
  | low, w :: ws, high => w.1 = low ∧ low ≤ w.2 ∧ Consecutive w.2 ws high

lemma Consecutive.concat {low mid high : ℕ} {ws : List (ℕ × ℕ)} (h : Consecutive low ws mid)
    (hle : mid ≤ high) : Consecutive low (ws ++ [(mid, high)]) high := by
  induction ws generalizing low with
  | nil =>
    obtain rfl : low = mid := h
    exact ⟨rfl, hle, rfl⟩
  | cons w ws ih =>
    obtain ⟨hlow, hw, hws⟩ := h
    exact ⟨hlow, hw, ih hws⟩

lemma Consecutive.le_of_mem {low high : ℕ} {ws : List (ℕ × ℕ)} (h : Consecutive low ws high) :
    ∀ w ∈ ws, low ≤ w.1 := by
  induction ws generalizing low with
  | nil => simp
  | cons v ws ih =>
    obtain ⟨rfl, hv, hws⟩ := h
    intro w hw
    rcases List.mem_cons.1 hw with rfl | hw
    · exact le_rfl
    · exact hv.trans (ih hws w hw)

/-- Consecutive intervals have no number in common. -/
lemma Consecutive.pairwise_disjoint {low high : ℕ} {ws : List (ℕ × ℕ)}
    (h : Consecutive low ws high) :
    ws.Pairwise fun v w => Disjoint (Finset.Ioc v.1 v.2) (Finset.Ioc w.1 w.2) := by
  induction ws generalizing low with
  | nil => exact .nil
  | cons w ws ih =>
    obtain ⟨rfl, hw, hws⟩ := h
    refine .cons (fun v hv => ?_) (ih hws)
    exact Finset.Ioc_disjoint_Ioc_of_le (hws.le_of_mem v hv)

/-! ### One call -/

/-- What the entries tell of a counter with this value. -/
structure Counted (start : ℕ) (k : String) (entries : List CounterEntry) (value : ℕ) : Prop where
  eq : value = base start k entries + gained k entries
  consecutive : Consecutive (base start k entries) (windows k entries) value

variable {start value : ℕ}

lemma Counted.nil : Counted start k [] start := ⟨rfl, rfl⟩

/-- An entry that does not change the counter. -/
lemma Counted.keep (h : Counted start k entries value) (hset : e.setTo? k = none)
    (hadded : e.added k = 0) (hwindow : e.window? k = none) :
    Counted start k (entries ++ [e]) value := by
  have hsince : sinceSet k (entries ++ [e]) = sinceSet k entries ++ [e] :=
    List.rtakeWhile_concat_pos _ _ _ (by simp [hset])
  constructor
  · simpa [base, gained, hsince, hset, hadded] using h.eq
  · simpa [base, windows, hsince, hset, hwindow] using h.consecutive

/-- An increment goes on from where the one before ended. -/
lemma Counted.increment (h : Counted start k entries value) (amount : ℕ) :
    Counted start k (entries ++ [.increment k amount (.ok (value + amount))]) (value + amount) := by
  have hsince : sinceSet k (entries ++ [.increment k amount (.ok (value + amount))]) =
      sinceSet k entries ++ [.increment k amount (.ok (value + amount))] :=
    List.rtakeWhile_concat_pos _ _ _ rfl
  constructor
  · have hvalue := h.eq
    simp [base, gained, hsince, CounterEntry.setTo?, CounterEntry.added] at hvalue ⊢
    omega
  · simpa [base, windows, hsince, CounterEntry.setTo?, CounterEntry.window?] using
      h.consecutive.concat (Nat.le_add_right value amount)

/-- After a counter is set, the counting begins anew. -/
lemma Counted.set (entries : List CounterEntry) (value : ℕ) :
    Counted start k (entries ++ [.set k value (.ok ())]) value := by
  have hsince : sinceSet k (entries ++ [.set k value (.ok ())]) = [] :=
    List.rtakeWhile_concat_neg _ _ _ (by simp [CounterEntry.setTo?])
  constructor
  · simp [base, gained, hsince, CounterEntry.setTo?]
  · simp [base, windows, hsince, CounterEntry.setTo?, Consecutive]

/-- What a call does to a counter is what is recorded of it. -/
lemma Counted.perform (h : Counted start k entries (s.counter k)) (call : CounterCall) :
    Counted start k (entries ++ [(s.perform call).1]) ((s.perform call).2.counter k) := by
  cases call with
  | increment key amount =>
    simp only [Store.perform, increment_eq]
    split_ifs
    · exact h.keep rfl rfl rfl
    · rw [counter_withCounter]
      split_ifs with hkey
      · subst hkey
        exact h.increment amount
      · refine h.keep rfl ?_ ?_
        · exact if_neg (Ne.symm hkey)
        · exact if_neg (Ne.symm hkey)
  | set key value =>
    simp only [Store.perform, set_eq, counter_withCounter]
    split_ifs with hkey
    · subst hkey
      exact .set entries value
    · exact h.keep (if_neg (Ne.symm hkey)) rfl rfl

/-! ### A history -/

lemma counted_log (s : Store) (calls : List CounterCall) (k : String) :
    Counted (s.counter k) k (s.log calls) ((s.after calls).counter k) := by
  induction calls using List.reverseRecOn with
  | nil => exact .nil
  | append_singleton calls call ih =>
    rw [log_concat, after_concat]
    exact ih.perform call

/-- A call on another counter is not noticed. -/
lemma counter_perform_of_ne {call : CounterCall} (h : call.key ≠ k) :
    (s.perform call).2.counter k = s.counter k := by
  cases call with
  | increment key amount =>
    simp only [perform, increment_eq]
    split_ifs
    · rfl
    · exact (counter_withCounter ..).trans (if_neg h.symm)
  | set key value => exact (counter_withCounter ..).trans (if_neg h.symm)

/-- What a call gives and does depends on its own counter. -/
lemma perform_congr {call : CounterCall} (h : s.counter call.key = s'.counter call.key) :
    (s.perform call).1 = (s'.perform call).1 ∧
      (s.perform call).2.counter call.key = (s'.perform call).2.counter call.key := by
  cases call with
  | increment key amount =>
    have h : s.counter key = s'.counter key := h
    simp only [perform, increment_eq, CounterCall.key, h]
    split_ifs
    · exact ⟨rfl, h⟩
    · simp [counter_withCounter]
  | set key value => simp [perform, set_eq, CounterCall.key, counter_withCounter]

lemma key_perform (s : Store) (call : CounterCall) : (s.perform call).1.key = call.key := by
  cases call <;> rfl

/-- The calls on a counter are recorded as if there were no others. -/
lemma filter_log (h : s.counter k = s'.counter k) :
    (s.log calls).filter (·.key = k) = s'.log (calls.filter (·.key = k)) ∧
      (s.after calls).counter k = (s'.after (calls.filter (·.key = k))).counter k := by
  induction calls generalizing s s' with
  | nil => exact ⟨rfl, h⟩
  | cons call calls ih =>
    by_cases hkey : call.key = k
    · subst hkey
      obtain ⟨hentry, hcounter⟩ := perform_congr h
      obtain ⟨hlog, hafter⟩ := ih hcounter
      simp [log, after, key_perform, hentry, hlog, hafter]
    · have hcounter := (counter_perform_of_ne (s := s) hkey).trans h
      simpa [log, after, key_perform, hkey] using ih hcounter

lemma after_tables (s : Store) (calls : List CounterCall) :
    (s.after calls).tenants = s.tenants ∧ (s.after calls).slugs = s.slugs := by
  induction calls generalizing s with
  | nil => exact ⟨rfl, rfl⟩
  | cons call calls ih =>
    obtain ⟨htenants, hslugs⟩ := ih (s.perform call).2
    have hcall : (s.perform call).2.tenants = s.tenants ∧ (s.perform call).2.slugs = s.slugs := by
      cases call with
      | increment key amount =>
        simp only [perform, increment_eq]
        split_ifs <;> exact ⟨rfl, rfl⟩
      | set key value => exact ⟨rfl, rfl⟩
    exact ⟨htenants.trans hcall.1, hslugs.trans hcall.2⟩

/-- Whatever changes of counters are made, in whatever order: a counter has the value that it was
set to last (the one that it had at the start, if it was never set) and what the increments that
succeeded have added since. The next increment succeeds if the sum is a possible value, and gives
it, and otherwise it fails and the store stays as it is; a counter can always be set. What the
increments passed since it was last set follows one upon the other up to its value, so that no two
of them passed the same. And each counter goes on as if there were no calls on others, and so do the
tenants. -/
theorem counters_exact (s : Store) (calls : List CounterCall) :
    (∀ k, (s.after calls).counter k =
      base (s.counter k) k (s.log calls) + gained k (s.log calls)) ∧
    (∀ k amount,
      let next := base (s.counter k) k (s.log calls) + gained k (s.log calls) + amount
      (s.after calls).increment k amount =
        if next ≤ maxCounter then (.ok next, (s.after calls).withCounter k next)
        else (.error (.overflow ("sequence " ++ k)), s.after calls)) ∧
    (∀ k value, (s.after calls).set k value = (.ok (), (s.after calls).withCounter k value)) ∧
    (∀ k, Consecutive (base (s.counter k) k (s.log calls)) (windows k (s.log calls))
        ((s.after calls).counter k) ∧
      (windows k (s.log calls)).Pairwise fun v w =>
        Disjoint (Finset.Ioc v.1 v.2) (Finset.Ioc w.1 w.2)) ∧
    (∀ k, (s.log calls).filter (·.key = k) = s.log (calls.filter (·.key = k)) ∧
      (s.after calls).counter k = (s.after (calls.filter (·.key = k))).counter k) ∧
    (s.after calls).tenants = s.tenants ∧ (s.after calls).slugs = s.slugs := by
  refine ⟨fun k => (counted_log s calls k).eq, fun k amount => ?_, fun _ _ => rfl, fun k => ?_,
    fun k => filter_log rfl, after_tables s calls⟩
  · rw [← (counted_log s calls k).eq]
    simp only [increment_eq]
    split_ifs
    · omega
    · rfl
    · rfl
    · omega
  · have hcounted := counted_log s calls k
    exact ⟨hcounted.consecutive, hcounted.consecutive.pairwise_disjoint⟩

/-- An increment by nothing passes nothing, one that is too large fails, and calls before the
counter was set and calls on others do not count. -/
example :
    windows "INV" (empty.log [.increment "INV" 3, .set "INV" 10, .increment "CN" 1,
      .increment "INV" 0, .increment "INV" maxCounter, .increment "INV" 5]) =
      [(10, 10), (10, 15)] := by
  decide

end Tenancy.Store
