import Mathlib.Data.List.Nodup
import Mathlib.Tactic.Common
import Tenancy.Assoc

/-!
# Counting and collecting in finite maps

How many values of a finite map have a property, and what can be collected from them; and how both
change when a value is inserted or erased. Changing all values goes with every operation. Lists are
sorted by keys, and searched by keys that do not occur twice.
-/

namespace Tenancy

/-! ### Keys in lists -/

/-- A list that is sorted by keys has them in ascending order. -/
lemma pairwise_mergeSort_key {α : Type} (key : α → String) (l : List α) :
    (l.mergeSort fun a b => decide (key a ≤ key b)).Pairwise fun a b => key a ≤ key b := by
  have hsorted : (l.mergeSort fun a b => decide (key a ≤ key b)).Pairwise
      fun a b => decide (key a ≤ key b) = true := by
    apply List.pairwise_mergeSort
    · intro a b c hab hbc
      rw [decide_eq_true_iff] at hab hbc ⊢
      exact String.le_trans hab hbc
    · intro a b
      simpa using String.le_total (key a) (key b)
  exact hsorted.imp of_decide_eq_true

/-- What is in a list in which no key occurs twice is found by its key. -/
lemma find?_of_nodup {α β : Type} [DecidableEq β] {key : α → β} {l : List α}
    (h : (l.map key).Nodup) {a : α} (ha : a ∈ l) :
    (l.find? fun b => key b = key a) = some a := by
  induction l with
  | nil => cases ha
  | cons b l ih =>
    rw [List.map_cons, List.nodup_cons] at h
    rcases List.mem_cons.1 ha with rfl | ha
    · simp
    · have hne : key b ≠ key a := fun heq => h.1 (heq ▸ List.mem_map_of_mem ha)
      rw [List.find?_cons_of_neg (by simpa using hne)]
      exact ih h.2 ha

/-! ### Counting -/

namespace Assoc

variable {α β γ : Type}

/-- The number of keys whose values satisfy `p`. -/
def countValues (a : Assoc α β) (p : β → Bool) : Nat :=
  a.toList.countP fun e => p e.2

@[simp]
lemma countValues_empty (p : β → Bool) : (∅ : Assoc α β).countValues p = 0 := rfl

/-- The map with `g` applied to all values. -/
def mapValues (a : Assoc α β) (g : β → γ) : Assoc α γ :=
  ⟨a.toList.map fun e => (e.1, g e.2), by
    rw [List.map_map]
    exact a.nodup⟩

lemma toList_mapValues (a : Assoc α β) (g : β → γ) :
    (a.mapValues g).toList = a.toList.map fun e => (e.1, g e.2) := rfl

lemma filter_mapValues (a : Assoc α β) (g : β → γ) (p : α → γ → Bool) :
    (a.mapValues g).filter p = (a.filter fun k v => p k (g v)).mapValues g := by
  simp only [filter, mapValues, List.filter_map, mk.injEq]
  rfl

/-- What is made of the pairs of a map is told apart by its keys. -/
lemma nodup_map_filterMap {a : Assoc α β} {f : α × β → Option γ} {key : γ → α}
    (h : ∀ e ∈ a.toList, ∀ c, f e = some c → key c = e.1) :
    ((a.toList.filterMap f).map key).Nodup := by
  have hkeys : a.toList.Pairwise fun e e' => e.1 ≠ e'.1 := List.pairwise_map.1 a.nodup
  rw [List.Nodup, List.pairwise_map, List.pairwise_filterMap]
  refine hkeys.imp_of_mem fun {e e'} he he' hne c hc c' hc' => ?_
  rw [h e he c hc, h e' he' c' hc']
  exact hne

variable [DecidableEq α]

lemma toList_insert (a : Assoc α β) (key : α) (value : β) :
    (a.insert key value).toList = (a.erase key).toList ++ [(key, value)] := rfl

lemma toList_erase (a : Assoc α β) (key : α) :
    (a.erase key).toList = a.toList.filter fun e => e.1 ≠ key := rfl

/-- A pair of a map can be drawn to the front. -/
lemma perm_cons_erase {a : Assoc α β} {key : α} {value : β} (h : a.get? key = some value) :
    a.toList.Perm ((key, value) :: (a.erase key).toList) := by
  have hmem := get?_eq_some_iff.1 h
  obtain ⟨entries, nodup⟩ := a
  simp only [erase, filter] at hmem ⊢
  clear h
  induction entries with
  | nil => simp at hmem
  | cons e rest ih =>
    obtain ⟨k, v⟩ := e
    simp only [List.map_cons, List.nodup_cons, List.mem_map, not_exists, not_and] at nodup
    rcases List.mem_cons.1 hmem with heq | hrest
    · cases heq
      have : rest.filter (fun e => decide (e.1 ≠ key)) = rest := by
        rw [List.filter_eq_self]
        intro e he
        simpa using nodup.1 e he
      rw [List.filter_cons_of_neg (by simp), this]
    · have hk : k ≠ key := fun hk => nodup.1 (key, value) hrest hk.symm
      rw [List.filter_cons_of_pos (by simpa using hk)]
      exact ((ih nodup.2 hrest).cons _).trans (.swap _ _ _)

lemma countValues_insert (a : Assoc α β) (key : α) (value : β) (p : β → Bool) :
    (a.insert key value).countValues p
      = (a.erase key).countValues p + (p value).toNat := by
  simp only [countValues, toList_insert, List.countP_append, List.countP_singleton]
  cases p value <;> rfl

lemma countValues_erase_of_none {a : Assoc α β} {key : α} (h : a.get? key = none)
    (p : β → Bool) : (a.erase key).countValues p = a.countValues p := by
  rw [countValues, erase_eq_self h, countValues]

lemma countValues_erase_of_some {a : Assoc α β} {key : α} {value : β}
    (h : a.get? key = some value) (p : β → Bool) :
    a.countValues p = (a.erase key).countValues p + (p value).toNat := by
  rw [countValues, (perm_cons_erase h).countP_eq, List.countP_cons, countValues]
  cases p value <;> rfl

lemma countValues_pos_iff {a : Assoc α β} {p : β → Bool} :
    0 < a.countValues p ↔ ∃ key value, a.get? key = some value ∧ p value = true := by
  simp only [countValues, List.countP_pos_iff, Prod.exists, get?_eq_some_iff]

/-! ### Collecting -/

/-- What `f` makes of the values, in order of insertion. -/
def collect (a : Assoc α β) (f : β → Option γ) : List γ :=
  a.toList.filterMap fun e => f e.2

lemma mem_collect {a : Assoc α β} {f : β → Option γ} {c : γ} :
    c ∈ a.collect f ↔ ∃ key value, a.get? key = some value ∧ f value = some c := by
  simp only [collect, List.mem_filterMap, Prod.exists, get?_eq_some_iff]

lemma collect_insert (a : Assoc α β) (key : α) (value : β) (f : β → Option γ) :
    (a.insert key value).collect f = (a.erase key).collect f ++ (f value).toList := by
  rw [collect, toList_insert, List.filterMap_append, collect]
  cases hf : f value <;> simp [hf]

lemma collect_erase_of_none {a : Assoc α β} {key : α} (h : a.get? key = none)
    (f : β → Option γ) : (a.erase key).collect f = a.collect f := by
  rw [collect, erase_eq_self h, collect]

lemma collect_perm {a : Assoc α β} {key : α} {value : β} (h : a.get? key = some value)
    (f : β → Option γ) : (a.collect f).Perm ((f value).toList ++ (a.erase key).collect f) := by
  have hperm := (perm_cons_erase h).filterMap fun e => f e.2
  cases hf : f value with
  | none => simpa [hf, collect] using hperm
  | some c => simpa [hf, collect] using hperm

lemma collect_congr {a : Assoc α β} {f g : β → Option γ}
    (h : ∀ key value, a.get? key = some value → f value = g value) :
    a.collect f = a.collect g := by
  apply List.filterMap_congr
  intro e he
  exact h e.1 e.2 (get?_eq_some_iff.2 he)

lemma length_collect {a : Assoc α β} {f : β → Option γ} {p : β → Bool}
    (h : ∀ key value, a.get? key = some value → (f value).isSome = p value) :
    (a.collect f).length = a.countValues p := by
  rw [collect, List.length_filterMap_eq_countP, countValues]
  apply List.countP_congr
  intro e he
  rw [h e.1 e.2 (get?_eq_some_iff.2 he)]

/-- What is collected from a map is told apart by its keys. -/
lemma nodup_map_collect {a : Assoc α β} {f : β → Option γ} {key : γ → α}
    (h : ∀ k value c, a.get? k = some value → f value = some c → key c = k) :
    ((a.collect f).map key).Nodup :=
  nodup_map_filterMap fun e he c hc => h e.1 e.2 c (get?_eq_some_iff.2 he) hc

lemma toList_erase_insert {a : Assoc α β} {key : α} (h : a.get? key = none) (value : β) :
    ((a.insert key value).erase key).toList = a.toList := by
  rw [toList_erase, toList_insert, List.filter_append, erase_eq_self h, ← toList_erase,
    erase_eq_self h]
  simp

/-- A map that lists further keys after those of another one holds the values of that one. -/
lemma get?_of_toList_append {a b : Assoc α β} {further : List (α × β)}
    (h : b.toList = a.toList ++ further) {key : α} {value : β} :
    b.get? key = some value ↔ a.get? key = some value ∨ (key, value) ∈ further := by
  simp only [get?_eq_some_iff, h, List.mem_append]

/-! ### Order -/

/-- Maps that list the same pairs in another order give the same values. -/
lemma get?_eq_of_perm {a b : Assoc α β} (h : a.toList.Perm b.toList) (key : α) :
    a.get? key = b.get? key := by
  apply Option.ext
  intro value
  rw [get?_eq_some_iff, get?_eq_some_iff, h.mem_iff]

/-- Maps that give the same values list the same pairs. -/
lemma perm_of_get?_eq {a b : Assoc α β} (h : ∀ key, a.get? key = b.get? key) :
    a.toList.Perm b.toList := by
  refine (List.perm_ext_iff_of_nodup a.nodup.of_map b.nodup.of_map).2 fun ⟨key, value⟩ => ?_
  rw [← get?_eq_some_iff, ← get?_eq_some_iff, h]

/-! ### Changing all values -/

lemma get?_mapValues (a : Assoc α β) (g : β → γ) (key : α) :
    (a.mapValues g).get? key = (a.get? key).map g := by
  simp only [get?, toList_mapValues, List.find?_map, Option.map_map]
  rfl

lemma erase_mapValues (a : Assoc α β) (g : β → γ) (key : α) :
    (a.mapValues g).erase key = (a.erase key).mapValues g := filter_mapValues ..

lemma insert_mapValues (a : Assoc α β) (g : β → γ) (key : α) (value : β) :
    (a.mapValues g).insert key (g value) = (a.insert key value).mapValues g := by
  simp only [insert, erase_mapValues]
  simp only [mapValues, List.map_append, List.map_cons, List.map_nil]

end Assoc

end Tenancy
