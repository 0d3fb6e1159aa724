/-!
# Finite maps

A finite map is a list of pairs in which no key occurs twice. Lookups see one value per key, and
every operation says what it does to lookups: `get?_insert`, `get?_erase`, `get?_filter`.
-/

namespace Tenancy

/-- A finite map from `α` to `β`, in order of insertion. -/
structure Assoc (α β : Type) where
  toList : List (α × β)
  nodup : (toList.map Prod.fst).Nodup
  deriving Repr

namespace Assoc

variable {α β : Type}

instance : EmptyCollection (Assoc α β) := ⟨⟨[], List.nodup_nil⟩⟩

instance : Inhabited (Assoc α β) := ⟨∅⟩

instance [DecidableEq α] [DecidableEq β] : DecidableEq (Assoc α β) := fun a b =>
  decidable_of_iff (a.toList = b.toList)
    ⟨fun h => by cases a; cases b; cases h; rfl, fun h => h ▸ rfl⟩

/-- The number of keys. -/
def size (a : Assoc α β) : Nat :=
  a.toList.length

@[simp]
theorem size_empty : (∅ : Assoc α β).size = 0 := rfl

/-- The keys, in order of insertion. -/
def keys (a : Assoc α β) : List α :=
  a.toList.map Prod.fst

/-- The pairs that satisfy `p`. -/
def filter (a : Assoc α β) (p : α → β → Bool) : Assoc α β :=
  ⟨a.toList.filter fun e => p e.1 e.2, List.Nodup.sublist (List.filter_sublist.map _) a.nodup⟩

variable [DecidableEq α]

/-- The value under a key. -/
def get? (a : Assoc α β) (key : α) : Option β :=
  (a.toList.find? (·.1 = key)).map Prod.snd

/-- Whether there is a value under a key. -/
def contains (a : Assoc α β) (key : α) : Bool :=
  (a.get? key).isSome

/-- The map without a key. -/
def erase (a : Assoc α β) (key : α) : Assoc α β :=
  a.filter fun k _ => k ≠ key

/-- The map with a value under a key, in place of an earlier one. -/
def insert (a : Assoc α β) (key : α) (value : β) : Assoc α β :=
  ⟨(a.erase key).toList ++ [(key, value)], by
    simp only [List.map_append, List.map_cons, List.map_nil, List.nodup_append]
    refine ⟨(a.erase key).nodup, by simp, ?_⟩
    intro k hk k' hk' h
    simp only [List.mem_singleton] at hk'
    subst hk' h
    obtain ⟨e, he, rfl⟩ := List.mem_map.1 hk
    simp [erase, filter] at he⟩

/-- The map with `f` applied to the value under a key, if there is one. -/
def modify (a : Assoc α β) (key : α) (f : β → β) : Assoc α β :=
  ⟨a.toList.map fun e => if e.1 = key then (e.1, f e.2) else e, by
    have : (a.toList.map fun e => if e.1 = key then (e.1, f e.2) else e).map Prod.fst
        = a.toList.map Prod.fst := by
      rw [List.map_map]
      apply List.map_congr_left
      intro e _
      simp only [Function.comp]
      split <;> rfl
    rw [this]
    exact a.nodup⟩

/-- The map that holds the last of the pairs with each key. -/
def ofList (entries : List (α × β)) : Assoc α β :=
  entries.foldl (fun a e => a.insert e.1 e.2) ∅

/-! ### Lookups -/

@[simp]
theorem get?_empty (key : α) : (∅ : Assoc α β).get? key = none := rfl

theorem get?_eq_some_iff {a : Assoc α β} {key : α} {value : β} :
    a.get? key = some value ↔ (key, value) ∈ a.toList := by
  obtain ⟨entries, nodup⟩ := a
  simp only [get?]
  induction entries with
  | nil => simp
  | cons e rest ih =>
    obtain ⟨k, v⟩ := e
    simp only [List.map_cons, List.nodup_cons] at nodup
    by_cases h : k = key
    · subst h
      simp only [List.find?_cons, decide_true, Option.map_some, Option.some.injEq,
        List.mem_cons, Prod.mk.injEq, true_and]
      constructor
      · rintro rfl
        exact .inl rfl
      · rintro (rfl | hmem)
        · rfl
        · exact absurd (List.mem_map.2 ⟨_, hmem, rfl⟩) nodup.1
    · simp only [List.find?_cons, h, decide_false, ih nodup.2, List.mem_cons, Prod.mk.injEq,
        iff_or_self]
      rintro ⟨rfl, -⟩
      exact absurd rfl h

theorem mem_keys_iff {a : Assoc α β} {key : α} : key ∈ a.keys ↔ ∃ v, a.get? key = some v := by
  simp [keys, get?_eq_some_iff]

theorem get?_eq_none_iff {a : Assoc α β} {key : α} : a.get? key = none ↔ key ∉ a.keys := by
  rw [mem_keys_iff]
  cases a.get? key <;> simp

theorem get?_filter (a : Assoc α β) (p : α → β → Bool) (key : α) :
    (a.filter p).get? key = (a.get? key).filter (p key) := by
  cases h : a.get? key with
  | none =>
    rw [Option.filter_none]
    rw [get?_eq_none_iff] at h ⊢
    simp only [keys, filter] at h ⊢
    intro hmem
    obtain ⟨e, he, rfl⟩ := List.mem_map.1 hmem
    exact h (List.mem_map.2 ⟨e, (List.mem_filter.1 he).1, rfl⟩)
  | some v =>
    have hmem := get?_eq_some_iff.1 h
    by_cases hp : p key v = true
    · rw [Option.filter_some, if_pos hp, get?_eq_some_iff]
      simp [filter, hmem, hp]
    · rw [Option.filter_some, if_neg hp, get?_eq_none_iff]
      simp only [keys, filter, List.mem_map, List.mem_filter, not_exists, not_and]
      rintro ⟨k, w⟩ ⟨hk, hpw⟩ rfl
      rw [← get?_eq_some_iff, h] at hk
      cases hk
      exact hp hpw

theorem get?_erase (a : Assoc α β) (key other : α) :
    (a.erase key).get? other = if other = key then none else a.get? other := by
  rw [erase, get?_filter]
  split
  next h => cases a.get? other <;> simp [h]
  next h => cases a.get? other <;> simp [h]

theorem get?_insert (a : Assoc α β) (key other : α) (value : β) :
    (a.insert key value).get? other = if other = key then some value else a.get? other := by
  have hl : (a.insert key value).get? other
      = ((a.erase key).get? other).or (if key = other then some value else none) := by
    simp only [insert, get?, List.find?_append, Option.map_or]
    congr 1
    by_cases h : key = other <;> simp [List.find?, h]
  rw [hl, get?_erase]
  by_cases h : other = key
  · simp [h]
  · simp [h, Ne.symm h]

theorem get?_modify (a : Assoc α β) (key other : α) (f : β → β) :
    (a.modify key f).get? other = if other = key then (a.get? other).map f else a.get? other := by
  obtain ⟨entries, nodup⟩ := a
  simp only [get?, modify]
  clear nodup
  induction entries with
  | nil => simp
  | cons e rest ih =>
    obtain ⟨k, v⟩ := e
    by_cases ho : k = other
    · subst ho
      by_cases hk : k = key <;> simp [hk]
    · by_cases hk : k = key
      · subst hk
        simpa [ho] using ih
      · simpa [ho, hk] using ih

/-! ### Size -/

theorem erase_eq_self {a : Assoc α β} {key : α} (h : a.get? key = none) :
    (a.erase key).toList = a.toList := by
  simp only [erase, filter, List.filter_eq_self]
  intro e he
  have : key ∉ a.keys := get?_eq_none_iff.1 h
  simp only [keys, List.mem_map, not_exists, not_and] at this
  simpa using this e he

theorem size_insert_of_none {a : Assoc α β} {key : α} (h : a.get? key = none) (value : β) :
    (a.insert key value).size = a.size + 1 := by
  simp [size, insert, erase_eq_self h]

theorem size_erase_of_some {a : Assoc α β} {key : α} {value : β} (h : a.get? key = some value) :
    (a.erase key).size + 1 = a.size := by
  obtain ⟨entries, nodup⟩ := a
  simp only [get?, size, erase, filter] at h ⊢
  induction entries with
  | nil => simp at h
  | cons e rest ih =>
    obtain ⟨k, v⟩ := e
    simp only [List.map_cons, List.nodup_cons] at nodup
    by_cases hk : k = key
    · subst hk
      have hrest : rest.filter (fun e => decide (e.1 ≠ k)) = rest := by
        rw [List.filter_eq_self]
        intro e he
        simp only [ne_eq, decide_eq_true_eq]
        rintro rfl
        exact nodup.1 (List.mem_map.2 ⟨e, he, rfl⟩)
      rw [List.filter_cons_of_neg (by simp), hrest, List.length_cons]
    · rw [List.find?_cons_of_neg (by simpa using hk)] at h
      rw [List.filter_cons_of_pos (by simpa using hk), List.length_cons, ih nodup.2 h,
        List.length_cons]

end Assoc

end Tenancy
