import Mathlib.Algebra.BigOperators.Group.List.Basic
import Mathlib.Algebra.Ring.Int.Defs
import Mathlib.Data.List.DropRight
import Mathlib.Order.Bounds.Defs
import Mathlib.Order.MinMax
import Mathlib.Tactic.Common
import Tenancy.Pool.Words

/-!
# The history of a pool

A pool records how many hold it, when it was last used, and since when its pings fail. `ofHistory`
says what that is by all that was done with the pool, and `perform_ofHistory` that whatever is done
next is recorded. `Words.Holds` says that words are those of a pool, which holds whatever is done as
long as the count fits in a word, `Words.Holds.perform`; and the count is no greater than the number
of deeds. So the records of a pool are exact, and are kept in words: `history_exact`.
-/

namespace Tenancy.Pool

/-! ### Deeds -/

/-- What is done with a pool. -/
inductive Deed
  | touch | acquire | release | markUnhealthy | markHealthy
  deriving DecidableEq, Repr

namespace Deed

/-- Whether it counts as a use. -/
def isUse : Deed → Bool
  | .touch | .acquire | .release => true
  | .markUnhealthy | .markHealthy => false

/-- How many more hold the pool. -/
def change : Deed → Int
  | .acquire => 1
  | .release => -1
  | .touch | .markUnhealthy | .markHealthy => 0

end Deed

/-- What was done with a pool, and when, the earliest first. -/
abbrev History := List (Deed × Nat)

/-- Does something with a pool at a time. -/
def perform (p : Pool) (d : Deed × Nat) : Pool :=
  match d.1 with
  | .touch => p.touch d.2
  | .acquire => p.acquire d.2
  | .release => p.release d.2
  | .markUnhealthy => (p.markUnhealthy d.2).2
  | .markHealthy => p.markHealthy.2

/-- A pool after all that was done with it. -/
def after (p : Pool) (history : History) : Pool := history.foldl perform p

/-- Does something with the words of a pool at a time. -/
def Words.perform (w : Words) (d : Deed × Nat) : Words :=
  match d.1 with
  | .touch => w.touch d.2
  | .acquire => w.acquire d.2
  | .release => w.release d.2
  | .markUnhealthy => (w.markUnhealthy d.2).2
  | .markHealthy => w.markHealthy.2

/-- The words of a pool after all that was done with it. -/
def Words.after (w : Words) (history : History) : Words := history.foldl Words.perform w

/-! ### What a history says -/

namespace History

/-- One more for each who comes and one fewer for each who goes, but never fewer than none. -/
def balance (history : History) : Int :=
  history.foldl (fun n d => max 0 (n + d.1.change)) 0

/-- How many more have come than gone. -/
def surplus (history : History) : Int := (history.map (·.1.change)).sum

/-- The time of the latest use, or of the creation if there is none. -/
def lastUse (created : Nat) (history : History) : Nat :=
  ((history.filter (·.1.isUse)).getLast?).elim created Prod.snd

/-- The times of the failures since the last success. -/
def streak (history : History) : List Nat :=
  ((history.rtakeWhile (·.1 ≠ .markHealthy)).filter (·.1 = .markUnhealthy)).map Prod.snd

lemma balance_concat (history : History) (d : Deed × Nat) :
    balance (history ++ [d]) = max 0 (balance history + d.1.change) := by
  simp [balance]

lemma surplus_concat (history : History) (d : Deed × Nat) :
    surplus (history ++ [d]) = surplus history + d.1.change := by
  simp [surplus]

lemma lastUse_concat (created : Nat) (history : History) (d : Deed × Nat) :
    lastUse created (history ++ [d]) = if d.1.isUse then d.2 else lastUse created history := by
  cases h : d.1.isUse <;> simp [lastUse, h]

lemma streak_concat (history : History) (d : Deed × Nat) :
    streak (history ++ [d]) =
      match d.1 with
      | .markUnhealthy => streak history ++ [d.2]
      | .markHealthy => []
      | .touch | .acquire | .release => streak history := by
  cases h : d.1 <;> simp [streak, h]

lemma balance_nonneg (history : History) : 0 ≤ balance history := by
  induction history using List.reverseRecOn with
  | nil => exact le_rfl
  | append_singleton history d _ =>
    rw [balance_concat]
    exact le_max_left _ _

/-- The balance is the greatest surplus that there is in a last part of the history. -/
theorem isGreatest_balance (history : History) :
    IsGreatest {n | ∃ recent : History, recent <:+ history ∧ n = surplus recent}
      (balance history) := by
  induction history using List.reverseRecOn with
  | nil =>
    refine ⟨⟨[], List.suffix_rfl, rfl⟩, ?_⟩
    rintro n ⟨recent, hrecent, rfl⟩
    rw [List.suffix_nil.1 hrecent]
    rfl
  | append_singleton history d ih =>
    obtain ⟨⟨best, hbest, hbalance⟩, hgreatest⟩ := ih
    rw [balance_concat]
    constructor
    · rcases max_choice 0 (balance history + d.1.change) with hmax | hmax
      · exact ⟨[], List.nil_suffix, hmax⟩
      · refine ⟨best ++ [d], List.suffix_concat_iff.2 (.inr ⟨best, rfl, hbest⟩), ?_⟩
        rw [hmax, hbalance, surplus_concat]
    · rintro n ⟨recent, hrecent, rfl⟩
      rcases List.suffix_concat_iff.1 hrecent with rfl | ⟨before, rfl, hbefore⟩
      · exact le_max_left _ _
      · rw [surplus_concat]
        exact le_max_of_le_right (Int.add_le_add_right (hgreatest ⟨before, hbefore, rfl⟩) _)

lemma lastUse_mem (created : Nat) (history : History) :
    lastUse created history ∈ created :: history.map Prod.snd := by
  rw [lastUse]
  cases hlast : (history.filter (·.1.isUse)).getLast? with
  | none => exact List.mem_cons_self
  | some d =>
    have hmem := (List.mem_filter.1 (List.mem_of_getLast? hlast)).1
    exact List.mem_cons_of_mem _ (List.mem_map_of_mem hmem)

end History

/-! ### What a pool records -/

open History (balance surplus lastUse streak)

variable {created : Nat} {history : History} {p : Pool} {d : Deed × Nat}

/-- The pool of a tenant with which all this was done. -/
def ofHistory (tenant : Tenant) (connections : ConnectionsId) (created : Nat)
    (history : History) : Pool :=
  { new tenant connections created with
    refs := (balance history).toNat
    lastUsed := lastUse created history
    unhealthySince := (streak history).head?.map (max 1) }

section

variable (tenant : Tenant) (connections : ConnectionsId)

/-- What is done not before the last use is recorded. -/
lemma perform_ofHistory (hle : lastUse created history ≤ d.2) :
    (ofHistory tenant connections created history).perform d =
      ofHistory tenant connections created (history ++ [d]) := by
  have hbalance := History.balance_nonneg history
  have hlast : max (lastUse created history) d.2 = d.2 := max_eq_right hle
  simp only [ofHistory, History.balance_concat, History.lastUse_concat, History.streak_concat]
  cases hd : d.1 with
  | touch => simp [perform, hd, touch, Deed.isUse, Deed.change, hlast, hbalance]
  | acquire =>
    have hrefs : (max 0 (balance history + 1)).toNat = (balance history).toNat + 1 := by omega
    simp [perform, hd, acquire, touch, Deed.isUse, Deed.change, hlast, hrefs]
  | release =>
    have hrefs : (max 0 (balance history + -1)).toNat = (balance history).toNat - 1 := by omega
    simp only [perform, hd, release, touch, Deed.isUse, Deed.change, hlast, hrefs, if_true]
  | markUnhealthy =>
    cases hstreak : streak history with
    | nil =>
      simp [perform, hd, markUnhealthy, isUnhealthy, Deed.isUse, Deed.change, hbalance, new,
        max_comm]
    | cons first rest =>
      simp [perform, hd, markUnhealthy, isUnhealthy, Deed.isUse, Deed.change, hbalance]
  | markHealthy =>
    simp [perform, hd, markHealthy, Deed.isUse, Deed.change, hbalance]

/-- A pool records all that was done with it, one thing after the other. -/
theorem after_eq_ofHistory (htimes : (created :: history.map Prod.snd).Pairwise (· ≤ ·)) :
    (new tenant connections created).after history =
      ofHistory tenant connections created history := by
  induction history using List.reverseRecOn with
  | nil => rfl
  | append_singleton history d ih =>
    rw [List.map_append, ← List.cons_append, List.pairwise_append] at htimes
    have hle := htimes.2.2 _ (History.lastUse_mem created history) d.2 List.mem_cons_self
    rw [after, List.foldl_concat, ← after, ih htimes.1, perform_ofHistory tenant connections hle]

end

lemma isUnhealthy_ofHistory (tenant : Tenant) (connections : ConnectionsId) (created : Nat)
    (history : History) :
    (ofHistory tenant connections created history).isUnhealthy = true ↔ streak history ≠ [] := by
  rw [isUnhealthy, ofHistory]
  cases streak history <;> simp

lemma markUnhealthy_fst (p : Pool) (now : Nat) : (p.markUnhealthy now).1 = !p.isUnhealthy := by
  unfold markUnhealthy
  cases p.isUnhealthy <;> rfl

/-- Whatever is done, whenever: the last use does not become earlier. -/
lemma lastUsed_le_perform (p : Pool) (d : Deed × Nat) : p.lastUsed ≤ (p.perform d).lastUsed := by
  unfold perform
  cases d.1 with
  | touch | acquire | release => exact Nat.le_max_left _ _
  | markUnhealthy =>
    simp only [markUnhealthy]
    split <;> exact Nat.le_refl _
  | markHealthy => exact Nat.le_refl _

lemma refs_perform_le (p : Pool) (d : Deed × Nat) : (p.perform d).refs ≤ p.refs + 1 := by
  unfold perform
  cases d.1 with
  | touch | markHealthy => exact Nat.le_succ _
  | acquire => exact Nat.le_refl _
  | release => exact (Nat.sub_le _ _).trans (Nat.le_succ _)
  | markUnhealthy =>
    simp only [markUnhealthy]
    split <;> exact Nat.le_succ _

/-! ### Words -/

namespace Words

variable {w : Words} {now : Nat}

@[simp] lemma toNat_time (now : Nat) : (time now).toNat = min now Text.maxWord :=
  UInt64.toNat_ofNat_of_lt' ((Nat.min_le_right _ _).trans_lt (by decide))

/-- The words are those of a pool, with all times as far as a word goes. -/
structure Holds (w : Words) (p : Pool) : Prop where
  refs : w.refs.toNat = p.refs
  lastUsed : w.lastUsed.toNat = min p.lastUsed Text.maxWord
  unhealthySince? : w.unhealthySince? = p.unhealthySince.map (min · Text.maxWord)

namespace Holds

lemma new (tenant : Tenant) (connections : ConnectionsId) (created : Nat) :
    (Words.new created).Holds (Pool.new tenant connections created) :=
  ⟨rfl, toNat_time created, rfl⟩

lemma isUnhealthy (h : w.Holds p) : w.isUnhealthy = p.isUnhealthy := by
  have := congrArg Option.isSome h.unhealthySince?
  rw [Option.isSome_map] at this
  rw [Pool.isUnhealthy, ← this, Words.unhealthySince?]
  cases w.isUnhealthy <;> rfl

lemma markUnhealthy_fst (h : w.Holds p) (now : Nat) :
    (w.markUnhealthy now).1 = (p.markUnhealthy now).1 := by
  rw [Pool.markUnhealthy_fst, ← h.isUnhealthy, Words.markUnhealthy]
  cases w.isUnhealthy <;> rfl

lemma touch (h : w.Holds p) (now : Nat) : (w.touch now).Holds (p.touch now) := by
  refine ⟨h.refs, ?_, h.unhealthySince?⟩
  rw [Words.touch, Pool.touch, UInt64.toNat_max, h.lastUsed, toNat_time, min_max_distrib_right]

/-- One more can be counted if the count still fits in a word. -/
lemma acquire (h : w.Holds p) (hlt : p.refs < Text.maxWord) (now : Nat) :
    (w.acquire now).Holds (p.acquire now) := by
  have hcount : (w.refs + 1).toNat = p.refs + 1 := by
    rw [UInt64.toNat_add, h.refs]
    exact Nat.mod_eq_of_lt (Nat.succ_lt_succ hlt)
  have hcounted : Holds { w with refs := w.refs + 1 } { p with refs := p.refs + 1 } :=
    ⟨hcount, h.lastUsed, h.unhealthySince?⟩
  exact hcounted.touch now

lemma release (h : w.Holds p) (now : Nat) : (w.release now).Holds (p.release now) := by
  have hcount : (if w.refs = 0 then 0 else w.refs - 1).toNat = p.refs - 1 := by
    rw [← h.refs]
    split_ifs with hzero
    · rw [hzero]
      rfl
    · have hpos : 0 < w.refs := UInt64.pos_iff_ne_zero.2 hzero
      exact UInt64.toNat_sub_of_le _ _ hpos
  have hcounted : Holds { w with refs := if w.refs = 0 then 0 else w.refs - 1 }
      { p with refs := p.refs - 1 } := ⟨hcount, h.lastUsed, h.unhealthySince?⟩
  exact hcounted.touch now

lemma markUnhealthy (h : w.Holds p) (now : Nat) :
    (w.markUnhealthy now).2.Holds (p.markUnhealthy now).2 := by
  rw [Words.markUnhealthy, Pool.markUnhealthy, h.isUnhealthy]
  split_ifs
  · exact h
  · refine ⟨h.refs, h.lastUsed, ?_⟩
    have hword : (max (time now) 1).toNat = min (max now 1) Text.maxWord := by
      rw [UInt64.toNat_max, toNat_time, min_max_distrib_right]
      rfl
    -- The word is not the zero that stands for none, not even at the time zero.
    have hne : max (time now) 1 ≠ 0 := by
      intro hzero
      have hpos : 1 ≤ (max (time now) 1).toNat := by
        rw [UInt64.toNat_max]
        exact Nat.le_max_right _ _
      rw [hzero] at hpos
      exact absurd hpos (by decide)
    simp [Words.unhealthySince?, Words.isUnhealthy, hne, hword]

lemma markHealthy (h : w.Holds p) : w.markHealthy.2.Holds p.markHealthy.2 :=
  ⟨h.refs, h.lastUsed, rfl⟩

/-- Whatever is done with a pool is done with its words, if the count still fits in a word. -/
lemma perform (h : w.Holds p) (hlt : p.refs < Text.maxWord) (d : Deed × Nat) :
    (w.perform d).Holds (p.perform d) := by
  unfold Words.perform Pool.perform
  cases d.1 with
  | touch => exact h.touch d.2
  | acquire => exact h.acquire hlt d.2
  | release => exact h.release d.2
  | markUnhealthy => exact h.markUnhealthy d.2
  | markHealthy => exact h.markHealthy

/-- Each deed adds one to the count at the most, so that it fits if all deeds are no more than that
leaves room for. -/
lemma after (h : w.Holds p) (hfits : p.refs + history.length ≤ Text.maxWord) :
    (w.after history).Holds (p.after history) := by
  induction history generalizing w p with
  | nil => exact h
  | cons d rest ih =>
    have hone := p.refs_perform_le d
    rw [List.length_cons] at hfits
    exact ih (h.perform (by omega) d) (by omega)

end Holds

end Words

/-! ### Exact records -/

/-- Whatever is done with a pool, in whatever order, as long as no time is earlier than the one
before. The number of those who hold it goes up with each who comes and down with each who goes, but
not below none; which makes it the greatest surplus that a last part of the history has. The last
use is the latest one, or the creation, and it never becomes earlier. The pool counts as unhealthy
exactly if a ping has failed since the last one that did not, and then since the first of these, or
since the first nanosecond if that failed at once. A failure is told to be the first one exactly if
there is none yet, and a success to be the end of some exactly if there are any. Nothing else of the
pool changes. Words of 64 bits hold and tell the same of fewer deeds than there are words, with all
times as far as a word goes. -/
theorem history_exact (tenant : Tenant) (connections : ConnectionsId) (created : Nat)
    (history : History) (hlength : history.length < 2 ^ 64)
    (htimes : (created :: history.map Prod.snd).Pairwise (· ≤ ·)) :
    let p := (new tenant connections created).after history
    let w := (Words.new created).after history
    ((p.refs : Int) = balance history ∧
      IsGreatest {n | ∃ recent : History, recent <:+ history ∧ n = surplus recent} (p.refs : Int)) ∧
    (p.lastUsed = lastUse created history ∧ ∀ d, p.lastUsed ≤ (p.perform d).lastUsed) ∧
    p.unhealthySince = (streak history).head?.map (max 1) ∧
    (∀ now, (p.markUnhealthy now).1 = true ↔ streak history = []) ∧
    (p.markHealthy.1 = true ↔ streak history ≠ []) ∧
    p = { new tenant connections created with
      refs := p.refs, lastUsed := p.lastUsed, unhealthySince := p.unhealthySince } ∧
    w.Holds p ∧ (∀ now, (w.markUnhealthy now).1 = (p.markUnhealthy now).1) ∧
    w.markHealthy.1 = p.markHealthy.1 := by
  intro p w
  have hp : p = ofHistory tenant connections created history :=
    after_eq_ofHistory tenant connections htimes
  have hrefs : (p.refs : Int) = balance history := by
    rw [hp]
    exact Int.toNat_of_nonneg (History.balance_nonneg history)
  have hunhealthy : p.isUnhealthy = true ↔ streak history ≠ [] := by
    rw [hp, isUnhealthy_ofHistory]
  have hwords : w.Holds p := by
    refine (Words.Holds.new tenant connections created).after ?_
    rw [new, Nat.zero_add]
    exact Nat.le_of_lt_succ hlength
  refine ⟨⟨hrefs, hrefs ▸ History.isGreatest_balance history⟩, ⟨?_, p.lastUsed_le_perform⟩, ?_,
    fun now => ?_, hunhealthy, ?_, hwords, hwords.markUnhealthy_fst, hwords.isUnhealthy⟩
  · rw [hp, ofHistory]
  · rw [hp, ofHistory]
  · rw [markUnhealthy_fst, Bool.not_eq_true', ← Bool.not_eq_true, hunhealthy, not_not]
  · rw [hp]
    rfl

/-- A pool that is given back before anybody holds it, and whose ping fails as soon as the manager
is there, and fails again between two who come to hold the pool and one who goes. -/
def failsAtOnce : History :=
  [(.release, 0), (.markUnhealthy, 0), (.acquire, 5), (.markUnhealthy, 7), (.acquire, 9),
    (.release, 9)]

/-- One still holds it, it was last used when the other one went, and it is unhealthy since the
first nanosecond. -/
theorem history_exact_failsAtOnce :
    let p := (new default 0 0).after failsAtOnce
    let w := (Words.new 0).after failsAtOnce
    failsAtOnce.length < 2 ^ 64 ∧ (0 :: failsAtOnce.map Prod.snd).Pairwise (· ≤ ·) ∧
      p.refs = 1 ∧ p.lastUsed = 9 ∧ p.unhealthySince = some 1 ∧ (p.markUnhealthy 9).1 = false ∧
      p.markHealthy.1 = true ∧ w = ⟨9, 1, 1⟩ := by
  intro p w
  have hlength : failsAtOnce.length < 2 ^ 64 := by decide
  have htimes : (0 :: failsAtOnce.map Prod.snd).Pairwise (· ≤ ·) := by decide
  obtain ⟨⟨hrefs, -⟩, ⟨hlast, -⟩, hsince, hfirst, hends, -⟩ :=
    history_exact default 0 0 failsAtOnce hlength htimes
  have hstreak : streak failsAtOnce = [0, 7] := by decide
  rw [hstreak] at hsince hfirst hends
  refine ⟨hlength, htimes, ?_, hlast, hsince, ?_, hends.2 (List.cons_ne_nil _ _), by decide⟩
  · exact Int.ofNat_inj.1 hrefs
  · exact Bool.eq_false_iff.2 fun h => List.cons_ne_nil _ _ ((hfirst 9).1 h)

end Tenancy.Pool
