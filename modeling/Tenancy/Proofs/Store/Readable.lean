import Tenancy.Proofs.Store.Index
import Tenancy.Proofs.Tenant.RoundTrip

/-!
# Rows that can be read

A tenant is created whatever its settings are, but a row can be read only if they do not nest too
deeply. So a tenant that was created is found again just if its settings are shallow, and the list
succeeds just if those of all tenants are: `readable_iff_isShallow`. Nothing that happens later
changes this, as a row that cannot be read cannot be written anew.
-/

namespace Tenancy.Store

open History (Reachable)

variable {s : Store} {h : History} {t : Tenant} {id : TenantId} {row : String}
  {rows : List (TenantId × String)}

/-! ### Statements -/

/-- Whether numbers are of their sizes and integers, and a tenant gets an identifier that no other
one has. The settings may nest to any depth. -/
def Change.Writable (s : Store) : Change → Prop
  | .create id now tenant =>
    s.tenants.get? id = none ∧ now ≤ Text.maxWord ∧ tenant.WellFormed ∧ tenant.isIntegral = true
  | .updateStatus _ _ now => now ≤ Text.maxWord

/-- A tenant is found, and its status can be changed. What is given is the tenant up to its status
and the time of the last change. -/
structure Reads (s : Store) (t : Tenant) : Prop where
  get : ∃ status updatedAt, s.get t.id = .ok (some { t with status, updatedAt })
  updateStatus : ∀ status now,
    (s.updateStatus t.id status now).1 = .ok { t with status, updatedAt := now }

/-- The row of a tenant cannot be read. -/
structure Refuses (s : Store) (t : Tenant) : Prop where
  get : ∃ row, s.get t.id = .error (.decoding row)
  updateStatus : ∀ status now, ∃ row, s.updateStatus t.id status now = (.error (.decoding row), s)

/-- The tenants can be listed, and those with a status. -/
structure Lists (s : Store) : Prop where
  list : ∃ tenants, s.list = .ok tenants
  listWithStatus : ∀ status, ∃ tenants, s.listWithStatus status = .ok tenants

/-- Every list fails because a row cannot be read. -/
structure RefusesLists (s : Store) : Prop where
  list : ∃ row, s.list = .error (.decoding row)
  listWithStatus : ∀ status, ∃ row, s.listWithStatus status = .error (.decoding row)

/-- Whatever was created can be read. -/
structure ReadsAll (h : History) : Prop where
  created : ∀ t ∈ h.created, Reads h.store t
  lists : Lists h.store

/-! ### Rows -/

/-- A row that was written for a tenant, with the status and the time of some change. -/
def Copies (t : Tenant) (row : String) : Prop :=
  ∃ status updatedAt, updatedAt ≤ Text.maxWord ∧ Tenant.text { t with status, updatedAt } = row

lemma Copies.self (hle : t.updatedAt ≤ Text.maxWord) : Copies t t.text :=
  ⟨t.status, t.updatedAt, hle, rfl⟩

lemma decode_text (hwell : t.WellFormed) (hi : t.isIntegral = true) :
    decode t.text = if t.IsShallow then .ok t else .error (.decoding t.text) := by
  have hread : Tenant.ofText? t.text = if t.IsShallow then some t else none :=
    Tenant.ofText?_text_of_perm hwell hi (.refl t.settings)
  rw [decode, hread]
  split_ifs <;> rfl

/-- A copy is read as the tenant, or cannot be read. -/
lemma Copies.decode_eq (h : Copies t row) (hwell : t.WellFormed) (hi : t.isIntegral = true) :
    ∃ status updatedAt, decode row =
      if t.IsShallow then .ok { t with status, updatedAt } else .error (.decoding row) := by
  obtain ⟨status, updatedAt, hle, rfl⟩ := h
  have hwell' : Tenant.WellFormed { t with status, updatedAt } :=
    ⟨⟨hwell.port, hwell.createdAt, hle⟩, hwell.settings⟩
  exact ⟨status, updatedAt, decode_text hwell' hi⟩

/-! ### Every history -/

/-- The rows are copies of the tenants that were created. -/
structure Kept (h : History) : Prop where
  wellFormed : ∀ t ∈ h.created, t.WellFormed ∧ t.isIntegral = true
  row : ∀ t ∈ h.created, ∃ row, h.store.tenants.get? t.id = some row ∧ Copies t row
  created : ∀ id row, h.store.tenants.get? id = some row →
    ∃ t ∈ h.created, t.id = id ∧ Copies t row

namespace Kept

lemma start : Kept History.start := by
  refine ⟨List.forall_mem_nil _, List.forall_mem_nil _, fun id row hrow => ?_⟩
  cases hrow

lemma create (hk : Kept h) {now : ℕ} {tenant : Tenant}
    (hc : (Change.create id now tenant).Writable h.store) :
    Kept (h.next (.create id now tenant)) := by
  obtain ⟨hfresh, hnow, hwell, hi⟩ := hc
  rcases create_cases h.store id now tenant with ⟨e, heq⟩ | ⟨-, -, heq⟩
  · simpa only [History.next, heq] using hk
  · simp only [History.next, heq]
    set u := registered id now tenant with hu
    constructor
    · intro t ht
      rcases List.mem_append.1 ht with hold | hnew
      · exact hk.wellFormed t hold
      · cases List.mem_singleton.1 hnew
        exact ⟨⟨⟨hwell.port, hnow, hnow⟩, hwell.settings⟩, hi⟩
    · intro t ht
      rcases List.mem_append.1 ht with hold | hnew
      · obtain ⟨row, hrow, hcopies⟩ := hk.row t hold
        refine ⟨row, ?_, hcopies⟩
        have hne : t.id ≠ id := by
          rintro rfl
          rw [hfresh] at hrow
          cases hrow
        rw [Assoc.get?_insert, if_neg hne, hrow]
      · rw [List.mem_singleton.1 hnew]
        exact ⟨u.text, (Assoc.get?_insert _ _ _ _).trans (if_pos rfl), .self hnow⟩
    · intro other row hrow
      rw [Assoc.get?_insert] at hrow
      split at hrow
      next hid =>
        cases hrow
        exact ⟨u, by simp, hid.symm, .self hnow⟩
      next =>
        obtain ⟨t, ht, hid, hcopies⟩ := hk.created other row hrow
        exact ⟨t, List.mem_append_left _ ht, hid, hcopies⟩

/-- A row that is written anew is a copy of the same tenant. -/
lemma copies_change (hk : Kept h) (ht : t ∈ h.created) {u : Tenant}
    (hrow : h.store.tenants.get? t.id = some row) (hread : decode row = .ok u) (status : Status)
    {now : ℕ} (hnow : now ≤ Text.maxWord) : Copies t { u with status, updatedAt := now }.text := by
  obtain ⟨hwell, hi⟩ := hk.wellFormed t ht
  obtain ⟨row', hrow', hcopies⟩ := hk.row t ht
  obtain rfl : row' = row := Option.some.inj (hrow'.symm.trans hrow)
  obtain ⟨status', updatedAt, hdecode⟩ := hcopies.decode_eq hwell hi
  rw [hdecode] at hread
  split_ifs at hread
  cases hread
  exact ⟨status, now, hnow, rfl⟩

lemma updateStatus (hk : Kept h) (id : TenantId) (status : Status) {now : ℕ}
    (hnow : now ≤ Text.maxWord) : Kept (h.next (.updateStatus id status now)) := by
  rcases updateStatus_cases h.store id status now with ⟨e, heq⟩ | ⟨row, u, hrow, hread, heq⟩
  · simpa only [History.next, heq] using hk
  · simp only [History.next, heq]
    refine ⟨hk.wellFormed, fun t ht => ?_, fun other row' hrow' => ?_⟩
    · by_cases hid : t.id = id
      · refine ⟨_, ?_, hk.copies_change ht (hid ▸ hrow) hread status hnow⟩
        rw [Assoc.get?_insert, if_pos hid]
      · obtain ⟨row', hrow', hcopies⟩ := hk.row t ht
        refine ⟨row', ?_, hcopies⟩
        rw [Assoc.get?_insert, if_neg hid, hrow']
    · rw [Assoc.get?_insert] at hrow'
      split at hrow'
      next hid =>
        cases hrow'
        subst hid
        obtain ⟨t, ht, hid, -⟩ := hk.created _ row hrow
        exact ⟨t, ht, hid, hk.copies_change ht (hid ▸ hrow) hread status hnow⟩
      next => exact hk.created other row' hrow'

end Kept

theorem kept_of_reachable (hr : Reachable Change.Writable h) : Kept h := by
  induction hr with
  | start => exact Kept.start
  | @next h c _ hc ih =>
    cases c with
    | create id now tenant => exact ih.create hc
    | updateStatus id status now => exact ih.updateStatus id status hc

/-! ### One tenant -/

lemma Kept.reads (hk : Kept h) (ht : t ∈ h.created) (hshallow : t.IsShallow) :
    Reads h.store t := by
  obtain ⟨hwell, hi⟩ := hk.wellFormed t ht
  obtain ⟨row, hrow, hcopies⟩ := hk.row t ht
  obtain ⟨status, updatedAt, hdecode⟩ := hcopies.decode_eq hwell hi
  rw [if_pos hshallow] at hdecode
  constructor
  · exact ⟨status, updatedAt, get_eq_ok_some_iff.2 ⟨row, hrow, hdecode⟩⟩
  · intro status' now
    simp only [Store.updateStatus, transact, hrow, hdecode]
    rfl

lemma Kept.refuses (hk : Kept h) (ht : t ∈ h.created) (hdeep : ¬ t.IsShallow) :
    Refuses h.store t := by
  obtain ⟨hwell, hi⟩ := hk.wellFormed t ht
  obtain ⟨row, hrow, hcopies⟩ := hk.row t ht
  obtain ⟨status, updatedAt, hdecode⟩ := hcopies.decode_eq hwell hi
  rw [if_neg hdeep] at hdecode
  constructor
  · refine ⟨row, ?_⟩
    simp only [get, hrow, hdecode]
    rfl
  · intro status' now
    refine ⟨row, ?_⟩
    simp only [Store.updateStatus, transact, hrow, hdecode]
    rfl

/-! ### Lists -/

lemma exists_mapM_decode (h : ∃ row ∈ rows, ∃ cause, decode row.2 = .error cause) :
    ∃ row, (rows.mapM fun row => decode row.2) = .error (.decoding row) := by
  induction rows with
  | nil =>
    obtain ⟨_, hmem, -⟩ := h
    cases hmem
  | cons row rows ih =>
    rw [List.mapM_cons]
    cases hread : Tenant.ofText? row.2 with
    | none =>
      refine ⟨row.2, ?_⟩
      simp only [decode, hread]
      rfl
    | some t =>
      have hdecode : decode row.2 = .ok t := decode_eq_ok_iff.2 hread
      obtain ⟨row', hmem, cause, herror⟩ := h
      rcases List.mem_cons.1 hmem with rfl | hrest
      · rw [hdecode] at herror
        cases herror
      · obtain ⟨row'', hmap⟩ := ih ⟨row', hrest, cause, herror⟩
        refine ⟨row'', ?_⟩
        rw [hdecode, hmap]
        rfl

lemma mem_rows : (id, row) ∈ s.rows ↔ s.tenants.get? id = some row := by
  rw [rows, (List.mergeSort_perm _ _).mem_iff, Assoc.get?_eq_some_iff]

lemma Kept.lists (hk : Kept h) (hshallow : ∀ t ∈ h.created, t.IsShallow) : Lists h.store := by
  have hread : ∀ row ∈ h.store.rows, ∃ t, Tenant.ofText? row.2 = some t := by
    intro row hmem
    obtain ⟨t, ht, -, hcopies⟩ := hk.created row.1 row.2 (mem_rows.1 hmem)
    obtain ⟨hwell, hi⟩ := hk.wellFormed t ht
    obtain ⟨status, updatedAt, hdecode⟩ := hcopies.decode_eq hwell hi
    rw [if_pos (hshallow t ht)] at hdecode
    exact ⟨_, decode_eq_ok_iff.1 hdecode⟩
  have hlist : ∃ tenants, h.store.list = .ok tenants := by
    rw [list, mapM_decode hread]
    exact ⟨_, rfl⟩
  refine ⟨hlist, fun status => ?_⟩
  obtain ⟨tenants, hlist⟩ := hlist
  rw [listWithStatus, hlist]
  exact ⟨_, rfl⟩

lemma Kept.refusesLists (hk : Kept h) (ht : t ∈ h.created) (hdeep : ¬ t.IsShallow) :
    RefusesLists h.store := by
  obtain ⟨hwell, hi⟩ := hk.wellFormed t ht
  obtain ⟨row, hrow, hcopies⟩ := hk.row t ht
  obtain ⟨status, updatedAt, hdecode⟩ := hcopies.decode_eq hwell hi
  rw [if_neg hdeep] at hdecode
  have hlist : ∃ row, h.store.list = .error (.decoding row) := by
    obtain ⟨row', hmap⟩ := exists_mapM_decode ⟨(t.id, row), mem_rows.2 hrow, _, hdecode⟩
    rw [list, hmap]
    exact ⟨row', rfl⟩
  refine ⟨hlist, fun status => ?_⟩
  obtain ⟨row, hlist⟩ := hlist
  rw [listWithStatus, hlist]
  exact ⟨row, rfl⟩

/-- Whatever tenants were created and whatever statuses were changed, a tenant is found and its
status can be changed just if its settings are not nested too deeply. The lists succeed just if
this is so of all tenants that were created. -/
theorem readable_iff_isShallow (hr : Reachable Change.Writable h) :
    (∀ t ∈ h.created, (t.IsShallow → Reads h.store t) ∧ (¬ t.IsShallow → Refuses h.store t)) ∧
    ((∀ t ∈ h.created, t.IsShallow) → Lists h.store) ∧
    ((∃ t ∈ h.created, ¬ t.IsShallow) → RefusesLists h.store) ∧
    (ReadsAll h ↔ ∀ t ∈ h.created, t.IsShallow) := by
  have hk := kept_of_reachable hr
  refine ⟨fun t ht => ⟨hk.reads ht, hk.refuses ht⟩, hk.lists, ?_, fun hall t ht => ?_,
    fun hall => ?_⟩
  · rintro ⟨t, ht, hdeep⟩
    exact hk.refusesLists ht hdeep
  · by_contra hdeep
    obtain ⟨row, hrefused⟩ := (hk.refuses ht hdeep).get
    obtain ⟨status, updatedAt, hfound⟩ := (hall.created t ht).get
    rw [hrefused] at hfound
    cases hfound
  · exact ⟨fun t ht => hk.reads ht (hall t ht), hk.lists hall⟩

/-! ### Settings at the limit -/

/-- Arrays that nest to a depth. -/
def nest : ℕ → Json
  | 0 => .null
  | n + 1 => .array [nest n]

lemma wellFormed_nest (n : ℕ) : (nest n).WellFormed := by
  induction n with
  | zero => trivial
  | succ n ih => exact ⟨ih, trivial⟩

/-- A tenant whose settings nest one level deeper than the arrays in them. -/
def nesting (slug : String) (n : ℕ) : Tenant :=
  { Tenant.new slug slug "db1" 5432 "db" with settings := [("tree", nest n)] }

lemma wellFormed_nesting (slug : String) (n : ℕ) : (nesting slug n).WellFormed :=
  ⟨⟨Nat.le_of_ble_eq_true rfl, Nat.zero_le _, Nat.zero_le _⟩, List.pairwise_singleton _ _,
    wellFormed_nest n, trivial⟩

/-- The settings of the first tenant nest as deeply as can be read, those of the second one level
deeper. -/
def atLimit : History :=
  History.start
    |>.next (.create "1" 5 (nesting "shallow" 125))
    |>.next (.create "2" 6 (nesting "deep" 126))
    |>.next (.updateStatus "1" .suspended 7)

lemma reachable_atLimit : Reachable Change.Writable atLimit := by
  refine .next (.next (.next .start ?shallow) ?deep) ?suspend
  case shallow => exact ⟨rfl, by decide, wellFormed_nesting _ _, by decide +kernel⟩
  case deep => exact ⟨by decide +kernel, by decide, wellFormed_nesting _ _, by decide +kernel⟩
  case suspend => exact Nat.le_of_ble_eq_true rfl

/-- The first tenant is found, the second is not, and no list succeeds. -/
theorem readable_iff_isShallow_atLimit :
    Reachable Change.Writable atLimit ∧ atLimit.created.map Tenant.id = ["1", "2"] ∧
    (∃ t ∈ atLimit.created, Reads atLimit.store t) ∧
    (∃ t ∈ atLimit.created, Refuses atLimit.store t) ∧ RefusesLists atLimit.store := by
  obtain ⟨hone, -, hlists, -⟩ := readable_iff_isShallow reachable_atLimit
  have hshallow : ∃ t ∈ atLimit.created, t.IsShallow := by decide +kernel
  have hdeep : ∃ t ∈ atLimit.created, ¬ t.IsShallow := by decide +kernel
  refine ⟨reachable_atLimit, by decide +kernel, ?_, ?_, hlists hdeep⟩
  · obtain ⟨t, ht, h⟩ := hshallow
    exact ⟨t, ht, (hone t ht).1 h⟩
  · obtain ⟨t, ht, h⟩ := hdeep
    exact ⟨t, ht, (hone t ht).2 h⟩

/-- A tenant that was created is not found, and no tenant can be listed any more. -/
theorem not_readsAll_atLimit :
    Reachable Change.Writable atLimit ∧ ¬ ReadsAll atLimit ∧
      ∃ row, atLimit.store.list = .error (.decoding row) := by
  have hk := kept_of_reachable reachable_atLimit
  have hdeep : ∃ t ∈ atLimit.created, ¬ t.IsShallow := by decide +kernel
  obtain ⟨t, ht, hdeep⟩ := hdeep
  refine ⟨reachable_atLimit, fun hall => ?_, (hk.refusesLists ht hdeep).list⟩
  obtain ⟨row, hrefused⟩ := (hk.refuses ht hdeep).get
  obtain ⟨status, updatedAt, hfound⟩ := (hall.created t ht).get
  rw [hrefused] at hfound
  cases hfound

end Tenancy.Store
