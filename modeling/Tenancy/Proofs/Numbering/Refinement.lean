import Mathlib.Data.Fintype.List
import Tenancy.Proofs.Numbering.Accounted
import Tenancy.Proofs.Numbering.Burst

/-!
# The cached strategy refines the strict one

As long as no series goes back to a period that it has left, a service that reserves ranges gives
the same numbers as one that increases the counter each time, in order or at once:
`cached_refines_strict`. It only asks the counter less often.
-/

namespace Tenancy.Numbering

instance (keys : List CounterKey) : Decidable (NeverReturns keys) :=
  decidable_of_iff (∀ k ∈ keys, ∀ k' ∈ keys, [k, k', k].Sublist keys →
    k'.tenant = k.tenant → k'.label = k.label → k' = k)
    ⟨fun h k k' hsub => h k (hsub.subset (by simp)) k' (hsub.subset (by simp)) hsub,
      fun h k _ k' _ => h k k'⟩

variable {requests : List Request} {k : CounterKey}

lemma NeverReturns.of_sublist {keys keys' : List CounterKey} (h : NeverReturns keys)
    (hsub : keys'.Sublist keys) : NeverReturns keys' :=
  fun k k' hk => h k k' (hk.trans hsub)

/-! ### Requests for one counter -/

lemma keys_append (a b : List Request) : keys (a ++ b) = keys a ++ keys b :=
  List.filterMap_append

lemma keys_of_forall (h : ∀ r ∈ requests, r.key = .ok k) :
    keys requests = List.replicate requests.length k := by
  induction requests with
  | nil => rfl
  | cons r rest ih =>
    obtain ⟨hr, hrest⟩ := List.forall_mem_cons.1 h
    rw [keys, List.filterMap_cons_some (by rw [hr]; rfl), List.length_cons, List.replicate_succ]
    exact congrArg _ (ih hrest)

lemma answers_of_forall (h : ∀ r ∈ requests, r.key = .ok k) (start : CounterKey → Nat)
    (past : List CounterKey) :
    answers start past requests =
      (List.range' (start k + past.count k + 1) requests.length).map .ok := by
  induction requests generalizing past with
  | nil => rfl
  | cons r rest ih =>
    obtain ⟨hr, hrest⟩ := List.forall_mem_cons.1 h
    have hcount : (past ++ [k]).count k = past.count k + 1 := by simp
    simp only [answers, hr, ih hrest, hcount, List.length_cons, List.range'_succ, List.map_cons,
      Nat.add_assoc]

/-! ### A new service -/

/-- A counter that has room for what the cached strategy reserves has room for what any of both
strategies reserves for fewer numbers. -/
lemma le_maxWord_of_le {size : Nat} (pos : 0 < size) {start m m' : Nat}
    (h : start + size * (m ⌈/⌉ size) ≤ Text.maxWord) (hm : m' ≤ m) {strategy : Strategy}
    (hs : strategy ∈ [.strict, .cached size pos]) :
    start + strategy.amount * (m' ⌈/⌉ strategy.amount) ≤ Text.maxWord := by
  simp only [List.mem_cons, List.not_mem_nil, or_false] at hs
  rcases hs with rfl | rfl
  · have hle := le_mul_ceilDiv pos m
    have hone : m' ⌈/⌉ 1 = m' := by
      rw [Nat.ceilDiv_eq_add_pred_div, Nat.add_sub_cancel, Nat.div_one]
    rw [Strategy.amount, hone]
    omega
  · exact Nat.le_trans (Nat.add_le_add_left (Nat.mul_le_mul_left _ (ceilDiv_mono pos hm)) _) h

lemma exists_drawAll_new (strategy : Strategy) {store : Store}
    (hreturn : NeverReturns (keys requests))
    (hmax : ∀ k ∈ keys requests, store.counter k.text +
      strategy.amount * ((keys requests).count k ⌈/⌉ strategy.amount) ≤ Text.maxWord) :
    ∃ n u, (new strategy).drawAll requests (.of store) =
        (answers (fun k => store.counter k.text) [] requests, n, u) ∧
      n.strategy = strategy ∧ Follows store (keys requests) n u :=
  (follows_new strategy store).drawAll requests hreturn hmax

namespace Burst

variable {ι : Type} {burst : ι → Request}

lemma IsDone.map_progress {σ : Type} {b : Burst ι σ} (hdone : b.IsDone) {order : List ι}
    {results : List (Except NumberingError Nat)} (h : order.map b.result? = results.map some) :
    order.map b.progress = results.map .done := by
  have hprogress : order.map b.progress =
      (order.map b.result?).map fun result => result.elim .waiting .done := by
    rw [List.map_map]
    refine List.map_congr_left fun i _ => ?_
    obtain ⟨result, hi⟩ := hdone i
    simp only [Function.comp_apply, result?, hi, Option.elim_some]
  rw [hprogress, h, List.map_map]
  rfl

/-- Requests for one counter that are carried out at once are given the next numbers of it, each
one of them. -/
lemma IsDone.isConsecutive [DecidableEq ι] [Fintype ι] {past : List CounterKey} {start : Store}
    {n : Numbering} {u : Recorded Store} (h : Follows start past n u)
    (hkey : ∀ i, (burst i).key = .ok k)
    (hreturn : NeverReturns (past ++ List.replicate (Fintype.card ι) k))
    (hmax : ∀ k' ∈ List.replicate (Fintype.card ι) k, start.counter k'.text + n.strategy.amount *
      ((past ++ List.replicate (Fintype.card ι) k).count k' ⌈/⌉ n.strategy.amount) ≤ Text.maxWord)
    {schedule : List ι} (hdone : ((Burst.start n u).run burst schedule).IsDone) :
    ((Burst.start n u).run burst schedule).IsConsecutive
      (start.counter k.text + past.count k) := by
  obtain ⟨order, hlinear⟩ := linear_run burst n u schedule
  have hall (i : ι) : i ∈ order := by
    obtain ⟨result, hi⟩ := hdone i
    rw [hlinear.mem, hi]
    rfl
  have hlength : order.length = Fintype.card ι := by
    rw [← List.toFinset_card_of_nodup hlinear.nodup, ← Finset.card_univ]
    exact congrArg _ (Finset.eq_univ_of_forall fun i => List.mem_toFinset.2 (hall i))
  have hkey' : ∀ r ∈ order.map burst, r.key = .ok k := by
    intro r hr
    obtain ⟨i, -, rfl⟩ := List.mem_map.1 hr
    exact hkey i
  have hkeys : keys (order.map burst) = List.replicate (Fintype.card ι) k := by
    rw [keys_of_forall hkey', List.length_map, hlength]
  -- In the order in which they took effect they are requests like any others.
  obtain ⟨n', u', hdraw, -, -⟩ := h.drawAll (order.map burst) (by rwa [hkeys])
    (by rwa [hkeys])
  obtain ⟨results, hreplay, hresults⟩ := hlinear.replay
  have hvalues : results =
      (List.range' (start.counter k.text + past.count k + 1) order.length).map .ok := by
    rw [← List.length_map burst, ← answers_of_forall hkey' fun k => start.counter k.text]
    exact (congrArg Prod.fst hreplay).symm.trans (congrArg Prod.fst hdraw)
  refine ⟨order, hlinear.nodup, hall, ?_⟩
  rw [hdone.map_progress hresults, hvalues, List.map_map]
  rfl

end Burst

/-- A new service that reserves ranges gives, request by request, the numbers that a strict one
gives, which are the next ones of each counter, as long as no series goes back to a period that it
has left and no counter comes near the greatest value. For `m` numbers of a counter it asks the
counter as often as `m` numbers fill ranges, and leaves it at the end of the last one. Under both
strategies requests for one counter that are carried out at once are given the next numbers, each
one of them, and none of them waits for ever. -/
theorem cached_refines_strict {size : Nat} (pos : 0 < size) (store : Store)
    (requests : List Request) (hreturn : NeverReturns (keys requests))
    (hmax : ∀ k ∈ keys requests, store.counter k.text +
      size * ((keys requests).count k ⌈/⌉ size) ≤ Text.maxWord) :
    let strict := (new .strict).drawAll requests (Recorded.of store)
    let cached := (new (.cached size pos)).drawAll requests (Recorded.of store)
    cached.1 = strict.1 ∧ strict.1 = answers (fun k => store.counter k.text) [] requests ∧
    (∀ k : CounterKey, k.Formed →
      cached.2.2.log.count k = (keys requests).count k ⌈/⌉ size ∧
      cached.2.2.place.counter k.text =
        store.counter k.text + size * ((keys requests).count k ⌈/⌉ size)) ∧
    ∀ strategy ∈ [.strict, .cached size pos], ∀ (past burst : List Request) (k : CounterKey),
      requests = past ++ burst → (∀ r ∈ burst, r.key = .ok k) →
      let before := (new strategy).drawAll past (Recorded.of store)
      let after := (Burst.start before.2.1 before.2.2).run burst.get
      (∀ schedule, (after schedule).IsDone →
        (after schedule).IsConsecutive (store.counter k.text + (keys past).count k)) ∧
      ∀ rounds : List (List (Fin burst.length)), (∀ round ∈ rounds, ∀ i, i ∈ round) →
        3 * burst.length ≤ rounds.length → (after rounds.flatten).IsDone := by
  intro strict cached
  have hroom {strategy : Strategy} (hs : strategy ∈ [.strict, .cached size pos])
      {past : List CounterKey} (hsub : past.Sublist (keys requests)) (k) (hk : k ∈ keys requests) :
      store.counter k.text + strategy.amount * (past.count k ⌈/⌉ strategy.amount) ≤
        Text.maxWord :=
    le_maxWord_of_le pos (hmax k hk) (hsub.count_le k) hs
  obtain ⟨n, u, hstrict, -, -⟩ := exists_drawAll_new .strict hreturn
    (hroom (by simp) (.refl _))
  obtain ⟨n', u', hcached, hs, hfollows⟩ := exists_drawAll_new (.cached size pos) hreturn
    (hroom (by simp) (.refl _))
  refine ⟨?_, congrArg Prod.fst hstrict, fun k hk => ⟨?_, ?_⟩, ?_⟩
  · exact (congrArg Prod.fst hcached).trans (congrArg Prod.fst hstrict).symm
  · have hlog := hfollows.log k hk
    rw [hs] at hlog
    exact (congrArg (fun result => result.2.2.log.count k) hcached).trans hlog
  · have hcounter := hfollows.counter k hk
    rw [hs] at hcounter
    exact (congrArg (fun result => result.2.2.place.counter k.text) hcached).trans hcounter
  · intro strategy hstrategy past burst k hrequests hburst before after
    have hkeys : keys requests = keys past ++ List.replicate burst.length k := by
      rw [hrequests, keys_append, keys_of_forall hburst]
    have hpast : (keys past).Sublist (keys requests) :=
      hkeys ▸ List.sublist_append_left _ _
    obtain ⟨n, u, hdraw, hs, hfollows⟩ := exists_drawAll_new strategy (hreturn.of_sublist hpast)
      fun k hk => hroom hstrategy hpast k (hpast.subset hk)
    have hcard := Fintype.card_fin burst.length
    have hbefore : before = (_, n, u) := hdraw
    simp only [after, hbefore]
    refine ⟨fun schedule hdone => hdone.isConsecutive hfollows
      (fun i => hburst _ (List.get_mem burst i)) ?_ ?_, fun rounds hall hlength =>
        Burst.isDone_of_rounds _ _ _ hall (hcard.symm ▸ hlength)⟩
    · rwa [hcard, ← hkeys]
    · rw [hcard, ← hkeys, hs]
      intro k' hk'
      exact hroom hstrategy (.refl _) k' (hkeys ▸ List.mem_append_right _ hk')

section Invoices

open Cluster (invoices june2024 june2025)

/-- Two tenants ask for numbers of their invoices of 2024. One request is not well formed. -/
def mixed : List Request :=
  [⟨"t1", invoices, june2024⟩, ⟨"t2", invoices, june2024⟩, ⟨"t1", invoices, june2024⟩,
    ⟨"", invoices, june2024⟩, ⟨"t1", invoices, june2024⟩, ⟨"t2", invoices, june2024⟩]

/-- Then one of them asks for three numbers of 2025. -/
def triple : List Request := List.replicate 3 ⟨"t1", invoices, june2025⟩

/-- The three requests take turns. -/
def turns : List (List (Fin triple.length)) :=
  List.replicate 9 [⟨0, by decide⟩, ⟨1, by decide⟩, ⟨2, by decide⟩]

/-- In ranges of two the three numbers of a counter take two reservations, and the last three may be
drawn at once. -/
theorem cached_refines_strict_mixed :
    let k : CounterKey := ⟨"t1", "INV", some "2024"⟩
    let cached := (new (.cached 2 Nat.two_pos)).drawAll (mixed ++ triple) (Recorded.of Store.empty)
    let before := (new (.cached 2 Nat.two_pos)).drawAll mixed (Recorded.of Store.empty)
    let after := (Burst.start before.2.1 before.2.2).run triple.get turns.flatten
    NeverReturns (keys (mixed ++ triple)) ∧
    cached.1 = [.ok 1, .ok 1, .ok 2, .error (.sequence (.badTenant "")), .ok 3, .ok 2, .ok 1,
      .ok 2, .ok 3] ∧
    (cached.2.2.log.count k = 2 ∧ cached.2.2.place.counter k.text = 4) ∧
    after.IsDone ∧ after.IsConsecutive 0 := by
  intro k cached before after
  have hreturn : NeverReturns (keys (mixed ++ triple)) := by decide +kernel
  obtain ⟨hcached, hstrict, hcounters, hburst⟩ :=
    cached_refines_strict Nat.two_pos .empty (mixed ++ triple) hreturn (by decide +kernel)
  obtain ⟨hconsecutive, hrounds⟩ := hburst (.cached 2 Nat.two_pos) (by simp) mixed triple
    ⟨"t1", "INV", some "2025"⟩ rfl (by decide +kernel)
  have hk : CounterKey.make "t1" invoices june2024 = .ok k := rfl
  have hcount : (keys (mixed ++ triple)).count k = 3 := by decide +kernel
  have hcounter := hcounters k (.of_make hk)
  rw [hcount] at hcounter
  have hdone : after.IsDone := hrounds turns (by decide) (by decide)
  exact ⟨hreturn, (hcached.trans hstrict).trans (by decide +kernel),
    hcounter, hdone, hconsecutive turns.flatten hdone⟩

end Invoices

end Tenancy.Numbering
