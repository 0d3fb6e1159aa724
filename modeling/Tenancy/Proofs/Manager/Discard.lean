import Mathlib.Data.List.Perm.Subperm
import Tenancy.Proofs.Manager.Cancellation

/-!
# Pools that are discarded

Over a backend in memory a pool that is taken out of use is closed at once. `discards` does so with
one pool after another; `discards_eq` says what is different afterwards, and `discards_perm` that
their order does not matter.

When only one task waits for connections to be closed, then all that happens before the next event
is that this task goes on: `settle_eq_finishClosing`.
-/

namespace Tenancy

namespace Ledger

variable {l : Ledger} {id i : ConnectionsId} {ids : List ConnectionsId}

lemma isClosed_foldl_close (l : Ledger) (ids : List ConnectionsId) (id : ConnectionsId) :
    (ids.foldl close l).isClosed id = (l.isClosed id || decide (id ∈ ids)) := by
  induction ids generalizing l with
  | nil => simp
  | cons first rest ih =>
    rw [List.foldl_cons, ih, isClosed_close, Bool.or_assoc, ← Bool.decide_or]
    simp only [List.mem_cons]

/-- Connections that are open now were the same before others were closed. -/
lemma getElem?_of_close {c : Connections} (h : (l.close id).all[i]? = some c)
    (hopen : c.closed = false) : l.all[i]? = some c := by
  unfold close at h
  split at h
  · exact h
  · rw [List.getElem?_modify] at h
    obtain ⟨c', hc', rfl⟩ := Option.map_eq_some_iff.1 h
    by_cases heq : id = i
    · simp [heq] at hopen
    · simpa [heq] using hc'

lemma getElem?_of_foldl_close {c : Connections} (h : (ids.foldl close l).all[i]? = some c)
    (hopen : c.closed = false) : l.all[i]? = some c := by
  induction ids generalizing l with
  | nil => exact h
  | cons first rest ih => exact getElem?_of_close (ih h) hopen

/-- Connections that are open are all counted when they are closed. -/
lemma closed_foldl_close (hopen : ∀ id ∈ ids, l.isClosed id = false) (hnodup : ids.Nodup) :
    (ids.foldl close l).closed = l.closed + ids.length := by
  induction ids generalizing l with
  | nil => rfl
  | cons first rest ih =>
    obtain ⟨hfirst, hrest⟩ := List.nodup_cons.1 hnodup
    have hclosed : (l.close first).closed = l.closed + 1 := by
      simp [close, hopen first List.mem_cons_self]
    rw [List.foldl_cons, ih _ hrest, hclosed, List.length_cons]
    · omega
    · intro id hid
      have hne : id ≠ first := fun heq => hfirst (heq ▸ hid)
      rw [isClosed_close, hopen id (List.mem_cons_of_mem _ hid), decide_eq_false hne]
      rfl

lemma opened_foldl_close (l : Ledger) (ids : List ConnectionsId) :
    (ids.foldl close l).opened = l.opened := by
  induction ids generalizing l with
  | nil => rfl
  | cons first rest ih =>
    have hopened : (l.close first).opened = l.opened := by
      unfold close
      split <;> rfl
    rw [List.foldl_cons, ih, hopened]

lemma close_comm (l : Ledger) (a b : ConnectionsId) :
    (l.close a).close b = (l.close b).close a := by
  by_cases heq : a = b
  · rw [heq]
  · have ha : (l.close b).isClosed a = l.isClosed a := by
      rw [isClosed_close, decide_eq_false heq, Bool.or_false]
    have hb : (l.close a).isClosed b = l.isClosed b := by
      rw [isClosed_close, decide_eq_false (Ne.symm heq), Bool.or_false]
    rw [close, hb, close.eq_1 (l.close b), ha]
    simp only [close]
    split_ifs
    · rfl
    · rfl
    · rfl
    · simp only [mk.injEq, and_self, and_true]
      apply List.ext_getElem?
      intro i
      simp only [List.getElem?_modify]
      by_cases hia : a = i
      · have hib : b ≠ i := fun h => heq (hia.trans h.symm)
        simp [hia, hib]
      · simp [hia]

lemma foldl_close_perm {ids' : List ConnectionsId} (h : ids.Perm ids') (l : Ledger) :
    ids.foldl close l = ids'.foldl close l :=
  h.foldl_eq' (fun a _ b _ l => close_comm l a b) l

end Ledger

namespace Assoc

variable {α β : Type}

lemma eq_of_toList {a b : Assoc α β} (h : a.toList = b.toList) : a = b := by
  cases a
  cases b
  cases h
  rfl

variable [DecidableEq α]

lemma erase_insert (a : Assoc α β) (key : α) (value : β) :
    (a.insert key value).erase key = a.erase key := by
  apply eq_of_toList
  simp [toList_erase, toList_insert]

lemma insert_insert (a : Assoc α β) (key : α) (value value' : β) :
    (a.insert key value).insert key value' = a.insert key value' := by
  apply eq_of_toList
  rw [toList_insert, erase_insert, toList_insert]

lemma toList_foldl_erase (a : Assoc α β) (keys : List α) :
    (keys.foldl erase a).toList = a.toList.filter fun e => e.1 ∉ keys := by
  induction keys generalizing a with
  | nil => simp
  | cons key rest ih =>
    rw [List.foldl_cons, ih, toList_erase, List.filter_filter]
    apply List.filter_congr
    intro e _
    simp [Bool.and_comm]

lemma perm_get?_erase (a : Assoc α β) (key : α) :
    a.toList.Perm (((a.get? key).map (key, ·)).toList ++ (a.erase key).toList) := by
  cases h : a.get? key with
  | none => rw [erase_eq_self h]; exact .refl _
  | some value => exact perm_cons_erase h

/-- Maps that differ under one key have everything else in common. -/
lemma exists_rest {a b : Assoc α β} {key : α} (h : ∀ other ≠ key, b.get? other = a.get? other) :
    ∃ rest, a.toList.Perm (((a.get? key).map (key, ·)).toList ++ rest) ∧
      b.toList.Perm (((b.get? key).map (key, ·)).toList ++ rest) ∧ ∀ e ∈ rest, e.1 ≠ key := by
  have hrest : (b.erase key).toList.Perm (a.erase key).toList := by
    refine perm_of_get?_eq fun other => ?_
    rw [get?_erase, get?_erase]
    split
    next => rfl
    next hne => exact h other hne
  refine ⟨(a.erase key).toList, perm_get?_erase a key,
    (perm_get?_erase b key).trans (hrest.append_left _), fun e he => ?_⟩
  rw [toList_erase, List.mem_filter] at he
  exact of_decide_eq_true he.2

end Assoc

namespace Manager

variable {m m' : Manager} {task k : TaskId} {s : Stage} {t : TenantId} {id : PoolId}

/-! ### Pools that are closed at once -/

/-- A pool that is to be closed, with its tenant and the reason. -/
abbrev Doomed := TenantId × PoolId × String

/-- Takes the pool of a tenant out of use and closes it. -/
def discard (m : Manager) (x : Doomed) : Manager :=
  { m with
    entries := m.entries.erase x.1
    pools := m.pools.modify x.2.1 fun p => { p with closed := true }
    ledger := (m.connectionsOf x.2.1).elim m.ledger m.ledger.close
    slots := m.slots - 1
    closures := m.closures ++ [(x.1, x.2.2)] }

/-- Takes pools out of use and closes them. -/
def discards (m : Manager) (doomed : List Doomed) : Manager := doomed.foldl discard m

/-- A task that has begun to close a pool has discarded it when the connections are closed. -/
lemma closeHeld_beginClose (m : Manager) (task : TaskId) (t : TenantId) (id : PoolId)
    (reason : String) (next : Next) :
    (m.beginClose task t id reason next).closeHeld (.closing t id reason next) =
      (m.discard (t, id, reason)).await task (.closing t id reason next) := by
  simp only [closeHeld, Stage.connections?, connectionsOf_beginClose]
  rfl

lemma connectionsOf_discard (m : Manager) (x : Doomed) :
    (m.discard x).connectionsOf = m.connectionsOf :=
  connectionsOf_modifyPool m x.2.1 (f := fun p => { p with closed := true }) fun _ => rfl

/-- What is different when pools were discarded. -/
lemma discards_eq (m : Manager) (doomed : List Doomed) :
    m.discards doomed =
      { m with
        entries := (doomed.map Prod.fst).foldl Assoc.erase m.entries
        pools := (doomed.map (·.2.1)).foldl
          (fun pools id => pools.modify id fun p => { p with closed := true }) m.pools
        ledger := (doomed.filterMap fun x => m.connectionsOf x.2.1).foldl Ledger.close m.ledger
        slots := m.slots - doomed.length
        closures := m.closures ++ doomed.map fun x => (x.1, x.2.2) } := by
  induction doomed generalizing m with
  | nil => simp [discards]
  | cons x rest ih =>
    have hcons : m.discards (x :: rest) = (m.discard x).discards rest := rfl
    rw [hcons, ih, connectionsOf_discard]
    have hslots : m.slots - 1 - (rest.length : Int) = m.slots - (rest.length + 1 : Nat) := by
      omega
    have hledger : ((m.connectionsOf x.2.1).elim m.ledger m.ledger.close) =
        (m.connectionsOf x.2.1).toList.foldl Ledger.close m.ledger := by
      cases m.connectionsOf x.2.1 <;> rfl
    have hsplit : (x :: rest).filterMap (fun x => m.connectionsOf x.2.1) =
        (m.connectionsOf x.2.1).toList ++ rest.filterMap fun x => m.connectionsOf x.2.1 := by
      cases h : m.connectionsOf x.2.1 <;> simp [h]
    simp only [discard, hslots, hledger, hsplit, List.map_cons, List.foldl_cons, List.length_cons,
      List.foldl_append, List.append_assoc, List.singleton_append]

lemma discards_append (m : Manager) (doomed later : List Doomed) :
    m.discards (doomed ++ later) = (m.discards doomed).discards later :=
  List.foldl_append

lemma toList_entries_discards (m : Manager) (doomed : List Doomed) :
    (m.discards doomed).entries.toList =
      m.entries.toList.filter fun e => e.1 ∉ doomed.map Prod.fst := by
  rw [discards_eq]
  exact Assoc.toList_foldl_erase _ _

lemma getElem?_foldl_close (pools : List Pool) (ids : List PoolId) (id : PoolId) :
    (ids.foldl (fun pools id => pools.modify id fun p => { p with closed := true }) pools)[id]? =
      (pools[id]?).map fun p => if id ∈ ids then { p with closed := true } else p := by
  induction ids generalizing pools with
  | nil => simp
  | cons first rest ih =>
    rw [List.foldl_cons, ih, List.getElem?_modify]
    cases pools[id]? with
    | none => rfl
    | some p =>
      by_cases heq : first = id
      · simp [heq]
      · simp [heq, Ne.symm heq]

lemma getElem?_pools_discards (m : Manager) (doomed : List Doomed) (id : PoolId) :
    (m.discards doomed).pools[id]? =
      (m.pools[id]?).map fun p =>
        if id ∈ doomed.map (·.2.1) then { p with closed := true } else p := by
  rw [discards_eq]
  exact getElem?_foldl_close _ _ _

/-- In whatever order pools are discarded, only the order of their tenants in the record of closed
pools is another one. -/
lemma discards_perm {doomed doomed' : List Doomed} (h : doomed.Perm doomed') (m : Manager) :
    m.discards doomed =
      { m.discards doomed' with closures := m.closures ++ doomed.map fun x => (x.1, x.2.2) } := by
  have hentries : (m.discards doomed).entries = (m.discards doomed').entries := by
    apply Assoc.eq_of_toList
    rw [toList_entries_discards, toList_entries_discards]
    apply List.filter_congr
    intro e _
    simp only [(h.map Prod.fst).mem_iff]
  have hpools : (m.discards doomed).pools = (m.discards doomed').pools := by
    apply List.ext_getElem?
    intro id
    rw [getElem?_pools_discards, getElem?_pools_discards]
    simp only [(h.map (·.2.1)).mem_iff]
  have hledger := Ledger.foldl_close_perm (h.filterMap fun x => m.connectionsOf x.2.1) m.ledger
  rw [discards_eq] at hentries hpools ⊢
  rw [discards_eq m doomed'] at hentries hpools ⊢
  simp only at hentries hpools
  simp only [hentries, hpools, hledger, h.length_eq]

/-- When a task waits, it makes no difference to what is discarded. -/
lemma discards_await (m : Manager) (task : TaskId) (s : Stage) (doomed : List Doomed) :
    (m.await task s).discards doomed = (m.discards doomed).await task s := by
  rw [discards_eq, discards_eq]
  rfl

/-! ### Pools in use -/

lemma Mapped.nodup_ids {entries : Assoc TenantId PoolId} {pools : List Pool}
    (h : Mapped entries pools) : (entries.toList.map Prod.snd).Nodup := by
  refine List.Nodup.map_on ?_ entries.nodup.of_map
  rintro ⟨t, id⟩ he ⟨t', id'⟩ he' rfl
  rw [h.injective (Assoc.get?_eq_some_iff.2 he) (Assoc.get?_eq_some_iff.2 he')]

/-- Pools in use have open connections, each its own. -/
structure InUse (m : Manager) : Prop where
  mapped : Mapped m.entries m.pools
  isOpen : ∀ id ∈ m.entries.collect m.connectionsOf, m.ledger.isClosed id = false
  nodup : (m.entries.collect m.connectionsOf).Nodup

lemma inUse_run (c : Config) (events : List Event) : ((new c).run events).InUse := by
  have hbooked := bookedWith_run c events
  have hsub : (((new c).run events).entries.collect ((new c).run events).connectionsOf).Sublist
      (((new c).run events).held ++ (new c).strays events) :=
    (List.sublist_append_left _ _).trans (List.sublist_append_left _ _)
  refine ⟨mapped_run c events, fun id hid => ?_, ?_⟩
  · exact Ledger.mem_openIds.1 (hbooked.held.mem_iff.1 (hsub.subset hid))
  · exact hsub.nodup (hbooked.held.nodup_iff.2 (Ledger.nodup_openIds _))

/-- When pools in use are discarded, as many connections are closed. -/
lemma InUse.closed_discards (h : m.InUse) {doomed : List Doomed}
    (hsub : (doomed.map fun x => (x.1, x.2.1)).Subperm m.entries.toList) :
    (m.discards doomed).ledger.closed = m.ledger.closed + doomed.length := by
  have hids : (doomed.filterMap fun x => m.connectionsOf x.2.1) =
      (doomed.map fun x => (x.1, x.2.1)).filterMap fun e => m.connectionsOf e.2 := by
    rw [List.filterMap_map]
    rfl
  have hlength : (doomed.filterMap fun x => m.connectionsOf x.2.1).length = doomed.length := by
    rw [List.filterMap_length_eq_length]
    intro x hx
    have hmem : (x.1, x.2.1) ∈ m.entries.toList := hsub.subset (List.mem_map.2 ⟨x, hx, rfl⟩)
    obtain ⟨p, hp⟩ := h.mapped.exists_pool (Assoc.get?_eq_some_iff.2 hmem)
    simp [connectionsOf, hp]
  obtain ⟨entries, hperm, hsublist⟩ := hsub
  have hopen : (entries.filterMap fun e => m.connectionsOf e.2).Sublist
      (m.entries.collect m.connectionsOf) := hsublist.filterMap _
  have hclosed := hperm.filterMap fun e => m.connectionsOf e.2
  rw [← hids] at hclosed
  rw [discards_eq, ← hlength]
  exact Ledger.closed_foldl_close
    (fun id hid => h.isOpen id (hopen.subset (hclosed.mem_iff.2 hid)))
    (hclosed.nodup_iff.1 (hopen.nodup h.nodup))

/-! ### One task that goes on -/

lemma finishClosing_add (m : Manager) (k : TaskId) (i j : Nat) :
    m.finishClosing k (i + j) = (m.finishClosing k i).finishClosing k j := by
  induction i generalizing m with
  | zero => rw [Nat.zero_add, finishClosing]
  | succ i ih =>
    have hstay {m : Manager} (h : ∀ s, m.tasks.get? k = some s → s.isClosing = false) :
        m.finishClosing k j = m := by
      cases j with
      | zero => rfl
      | succ j =>
        simp only [finishClosing]
        split
        next s hs => rw [if_neg (by simp [h s hs])]
        next => rfl
    rw [Nat.add_right_comm]
    simp only [finishClosing]
    split
    next s hs =>
      split
      next => exact ih _
      next hc =>
        refine (hstay fun s' hs' => ?_).symm
        rw [hs] at hs'
        cases hs'
        simpa using hc
    next hnone =>
      refine (hstay fun s' hs' => ?_).symm
      rw [hnone] at hs'
      cases hs'

lemma Settled.finishClosing (h : m.Settled) (k : TaskId) (n : Nat) : m.finishClosing k n = m := by
  cases n with
  | zero => rfl
  | succ n =>
    simp only [Manager.finishClosing]
    split
    next s hs => rw [if_neg (by simp [h k s hs])]
    next => rfl

/-- If only one task waits for connections to be closed, it goes on until it no longer does. -/
lemma settle_eq_finishClosing {n : Nat}
    (hother : ∀ i s, i ≠ k → m.tasks.get? i = some s → s.isClosing = false)
    (hn : (m.finishClosing k n).Settled) : m.settle = m.finishClosing k n := by
  have hreached : ∃ j, m.settle = m.finishClosing k j := by
    refine settle_induction (I := fun m₂ => ∃ j, m₂ = m.finishClosing k j) ?_ ⟨0, rfl⟩
    rintro _ i s ⟨j, rfl⟩ hs hc
    have hi : i = k := by
      by_contra hne
      rcases get?_finishClosing_other hne hs with hs | hq
      · rw [hother i s hne hs] at hc
        cases hc
      · rw [Stage.isClosing_of_isQueued hq] at hc
        cases hc
    subst hi
    refine ⟨j + 1, ?_⟩
    rw [finishClosing_add]
    simp only [Manager.finishClosing, hs, hc, if_true, Manager.step]
  obtain ⟨j, hj⟩ := hreached
  have hsettled : (m.finishClosing k j).Settled := hj ▸ settled_settle m
  rw [hj]
  rcases Nat.le_total j n with hle | hle
  · obtain ⟨d, rfl⟩ := Nat.exists_eq_add_of_le hle
    rw [finishClosing_add, hsettled.finishClosing]
  · obtain ⟨d, rfl⟩ := Nat.exists_eq_add_of_le hle
    rw [finishClosing_add, hn.finishClosing]

end Manager

end Tenancy
