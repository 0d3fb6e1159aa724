import Mathlib.Data.List.Perm.Basic
import Tenancy.Proofs.Assoc
import Tenancy.Proofs.Store.Changes
import Tenancy.Proofs.Tenant.Slug

/-!
# The index of slugs

In every store that admissible changes lead to, the rows can be read and the index names exactly
their slugs. The three ways to find a tenant agree therefore: `consistent_of_reachable`.

The invariant is `Sound`. It speaks about the index through the tenants that were created, so that
a change of status has only to show that the row still lasts as the same tenant.
-/

namespace Tenancy.Store

open History (Reachable)

/-! ### Rows -/

/-- A row that was written for a tenant with this identifier and can be read. -/
def Keeps (id : TenantId) (row : String) : Prop :=
  ∃ t : Tenant, t.id = id ∧ t.text = row ∧ t.WellFormed ∧ t.IsShallow

/-- What lasts of the tenant in a row. -/
def lasting? (row : String) : Option Tenant :=
  (Tenant.ofText? row).map Tenant.lasting

lemma lasting?_text {t : Tenant} (h : t.WellFormed) (hshallow : t.IsShallow) :
    lasting? t.text = some t.lasting := by
  obtain ⟨u, hread, -, -, hout⟩ := Tenant.exists_ofText?_text h hshallow
  rw [lasting?, hread, Option.map_some, Tenant.lasting_eq_of_outline hout]

lemma Keeps.exists_ofText? {id : TenantId} {row : String} (h : Keeps id row) :
    ∃ u, Tenant.ofText? row = some u ∧ u.id = id ∧ u.WellFormed ∧ u.IsShallow := by
  obtain ⟨t, rfl, rfl, hwell, hshallow⟩ := h
  obtain ⟨u, hread, huwell, hushallow, hout⟩ := Tenant.exists_ofText?_text hwell hshallow
  have hid : u.outline.id = t.outline.id := by rw [hout]
  exact ⟨u, hread, hid, huwell, hushallow⟩

lemma decode_eq_ok_iff {row : String} {t : Tenant} :
    decode row = .ok t ↔ Tenant.ofText? row = some t := by
  cases h : Tenant.ofText? row <;> simp [decode, h]

/-- A row whose status is changed keeps the same tenant. -/
lemma Keeps.change {id : TenantId} {row : String} {u : Tenant} (h : Keeps id row)
    (hread : decode row = .ok u) (status : Status) {now : ℕ} (hnow : now ≤ Text.maxWord) :
    Keeps id { u with status, updatedAt := now }.text ∧
      lasting? { u with status, updatedAt := now }.text = lasting? row := by
  obtain ⟨u', hread', hid, hwell, hshallow⟩ := h.exists_ofText?
  have hread := decode_eq_ok_iff.1 hread
  obtain rfl : u' = u := Option.some.inj (hread'.symm.trans hread)
  have hwell' : Tenant.WellFormed { u' with status, updatedAt := now } :=
    ⟨⟨hwell.port, hwell.createdAt, hnow⟩, hwell.settings⟩
  refine ⟨⟨{ u' with status, updatedAt := now }, hid, rfl, hwell', hshallow⟩, ?_⟩
  rw [lasting?_text hwell' hshallow, lasting?, hread, Option.map_some, Tenant.lasting_change]

/-! ### The invariant -/

/-- The rows keep the tenants that were created, and the index has their slugs. -/
structure Sound (h : History) : Prop where
  keeps : ∀ id row, h.store.tenants.get? id = some row → Keeps id row
  lasting : (h.store.tenants.collect lasting?).Perm (h.created.map Tenant.lasting)
  slugs : ∀ slug id,
    h.store.slugs.get? slug = some id ↔ ∃ t ∈ h.created, t.slug = slug ∧ t.id = id
  nodup : (h.created.map Tenant.slug).Nodup
  check : ∀ t ∈ h.created, Slug.check t.slug = .ok ()

lemma sound_start : Sound History.start := by
  refine ⟨?_, .refl _, ?_, List.nodup_nil, ?_⟩
  · intro id row h
    cases h
  · intro slug id
    simp [History.start, empty]
  · intro t ht
    cases ht

/-- A slug that no tenant has is entered for a tenant that is created. -/
lemma Sound.slugs_insert {h : History} (hs : Sound h) {u : Tenant}
    (hunused : ∀ t ∈ h.created, t.slug ≠ u.slug) (slug : String) (id : TenantId) :
    (h.store.slugs.insert u.slug u.id).get? slug = some id ↔
      ∃ t ∈ h.created ++ [u], t.slug = slug ∧ t.id = id := by
  rw [Assoc.get?_insert]
  split
  next heq =>
    subst heq
    simp only [List.mem_append, List.mem_singleton, Option.some.injEq]
    constructor
    · rintro rfl
      exact ⟨u, .inr rfl, rfl, rfl⟩
    · rintro ⟨t, ht | rfl, htslug, htid⟩
      · exact absurd htslug (hunused t ht)
      · exact htid
  next hne =>
    rw [hs.slugs]
    constructor
    · rintro ⟨t, ht, h⟩
      exact ⟨t, List.mem_append_left _ ht, h⟩
    · rintro ⟨t, ht, htslug, htid⟩
      rcases List.mem_append.1 ht with ht | ht
      · exact ⟨t, ht, htslug, htid⟩
      · rw [List.mem_singleton.1 ht] at htslug
        exact absurd htslug.symm hne

lemma Sound.create {h : History} (hs : Sound h) {id : TenantId} {now : ℕ} {tenant : Tenant}
    (hc : (Change.create id now tenant).Admissible h.store) :
    Sound (h.next (.create id now tenant)) := by
  obtain ⟨hfresh, hnow, hwell, hshallow⟩ := hc
  rcases create_cases h.store id now tenant with ⟨e, heq⟩ | ⟨hcheck, hslug, heq⟩
  · simpa only [History.next, heq] using hs
  · simp only [History.next, heq]
    have hwell' : (registered id now tenant).WellFormed :=
      ⟨⟨hwell.port, hnow, hnow⟩, hwell.settings⟩
    have hunused : ∀ t ∈ h.created, t.slug ≠ tenant.slug := by
      intro t ht htslug
      have htaken := (hs.slugs t.slug t.id).2 ⟨t, ht, rfl, rfl⟩
      rw [htslug, hslug] at htaken
      cases htaken
    constructor
    · intro other row hrow
      rw [Assoc.get?_insert] at hrow
      split at hrow
      next heq =>
        cases hrow
        exact ⟨_, heq.symm, rfl, hwell', hshallow⟩
      next => exact hs.keeps other row hrow
    · rw [Assoc.collect_insert, Assoc.collect_erase_of_none hfresh,
        lasting?_text hwell' hshallow, List.map_append]
      exact hs.lasting.append_right _
    · exact hs.slugs_insert (u := registered id now tenant) hunused
    · rw [List.map_append, List.nodup_append]
      refine ⟨hs.nodup, List.nodup_singleton _, ?_⟩
      intro slug hmem slug' hmem'
      obtain ⟨t, ht, rfl⟩ := List.mem_map.1 hmem
      rw [List.mem_singleton.1 hmem']
      exact hunused t ht
    · intro t ht
      rcases List.mem_append.1 ht with ht | ht
      · exact hs.check t ht
      · rw [List.mem_singleton.1 ht]
        exact hcheck

lemma Sound.updateStatus {h : History} (hs : Sound h) (id : TenantId) (status : Status) {now : ℕ}
    (hnow : now ≤ Text.maxWord) : Sound (h.next (.updateStatus id status now)) := by
  rcases updateStatus_cases h.store id status now with ⟨e, heq⟩ | ⟨row, u, hrow, hread, heq⟩
  · simpa only [History.next, heq] using hs
  · simp only [History.next, heq]
    obtain ⟨hkeeps, hlasting⟩ := (hs.keeps id row hrow).change hread status hnow
    refine ⟨?_, ?_, hs.slugs, hs.nodup, hs.check⟩
    · intro other row' hrow'
      rw [Assoc.get?_insert] at hrow'
      split at hrow'
      next heq =>
        cases hrow'
        rw [heq]
        exact hkeeps
      next => exact hs.keeps other row' hrow'
    · rw [Assoc.collect_insert, hlasting]
      exact List.perm_append_comm.trans ((Assoc.collect_perm hrow lasting?).symm.trans hs.lasting)

/-- Every store that admissible changes lead to is sound. -/
theorem sound_of_reachable {h : History} (hr : Reachable Change.Admissible h) : Sound h := by
  induction hr with
  | start => exact sound_start
  | @next h c _ hc ih =>
    cases c with
    | create id now tenant => exact ih.create hc
    | updateStatus id status now => exact ih.updateStatus id status hc

/-! ### Identifiers of rows -/

/-- A row that was written for a tenant with this identifier, whether or not it can be read. -/
def Names (id : TenantId) (row : String) : Prop :=
  ∃ t : Tenant, t.id = id ∧ t.text = row ∧ t.Sized

lemma Names.of_decode {id : TenantId} {row : String} {t : Tenant} (h : Names id row)
    (hread : decode row = .ok t) : t.id = id ∧ t.Sized := by
  obtain ⟨u, rfl, rfl, hsized⟩ := h
  have heq := Tenant.eq_of_ofText?_text hsized (decode_eq_ok_iff.1 hread)
  rw [heq]
  exact ⟨rfl, hsized.port, hsized.createdAt, hsized.updatedAt⟩

/-- What is asked of the changes here is only that their numbers have their sizes. -/
lemma names_of_reachable {h : History} (hr : Reachable (fun _ c => c.Sized) h) {id : TenantId}
    {row : String} (hrow : h.store.tenants.get? id = some row) : Names id row := by
  induction hr generalizing id row with
  | start => cases hrow
  | @next h c _ hc ih =>
    cases c with
    | create new now tenant =>
      rcases create_cases h.store new now tenant with ⟨e, heq⟩ | ⟨-, -, heq⟩
      · simp only [History.next, heq] at hrow
        exact ih hrow
      · simp only [History.next, heq, Assoc.get?_insert] at hrow
        split at hrow
        next hid =>
          cases hrow
          exact ⟨registered new now tenant, hid.symm, rfl, hc.2.port, hc.1, hc.1⟩
        next => exact ih hrow
    | updateStatus changed status now =>
      rcases updateStatus_cases h.store changed status now with
        ⟨e, heq⟩ | ⟨row', u, hrow', hread, heq⟩
      · simp only [History.next, heq] at hrow
        exact ih hrow
      · simp only [History.next, heq, Assoc.get?_insert] at hrow
        split at hrow
        next hid =>
          cases hrow
          obtain ⟨huid, hsized⟩ := (ih hrow').of_decode hread
          exact ⟨{ u with status, updatedAt := now }, huid.trans hid.symm, rfl, hsized.port,
            hsized.createdAt, hc⟩
        next => exact ih hrow

lemma get_eq_ok_some_iff {s : Store} {id : TenantId} {t : Tenant} :
    s.get id = .ok (some t) ↔ ∃ row, s.tenants.get? id = some row ∧ decode row = .ok t := by
  cases hrow : s.tenants.get? id with
  | none => simp [get, hrow]
  | some row => cases hread : decode row <;> simp [get, hrow, hread, Except.map]

lemma require_eq_ok_iff {s : Store} {id : TenantId} {t : Tenant} :
    s.require id = .ok t ↔ s.get id = .ok (some t) := by
  cases hget : s.get id with
  | error e => simp [require, hget, bind, Except.bind]
  | ok found =>
    cases found with
    | none => simp [require, hget, bind, Except.bind, throw, throwThe, MonadExceptOf.throw]
    | some u => simp [require, hget, bind, Except.bind, pure, Except.pure]

/-- In every store whose tenants were all created in it, what is found under an identifier has that
identifier. -/
theorem id_of_require {h : History} (hr : Reachable (fun _ c => c.Sized) h) {id : TenantId}
    {t : Tenant} (hreq : h.store.require id = .ok t) : t.id = id := by
  obtain ⟨row, hrow, hread⟩ := get_eq_ok_some_iff.1 (require_eq_ok_iff.1 hreq)
  exact ((names_of_reachable hr hrow).of_decode hread).1

/-! ### Ways to find a tenant -/

lemma mapM_decode {rows : List (TenantId × String)}
    (h : ∀ row ∈ rows, ∃ t, Tenant.ofText? row.2 = some t) :
    (rows.mapM fun row => decode row.2) = .ok (rows.filterMap fun row => Tenant.ofText? row.2) := by
  induction rows with
  | nil => rfl
  | cons row rows ih =>
    obtain ⟨t, ht⟩ := h row List.mem_cons_self
    have hdecode : decode row.2 = .ok t := decode_eq_ok_iff.2 ht
    rw [List.mapM_cons, ih fun r hr => h r (List.mem_cons_of_mem _ hr), hdecode]
    simp only [List.filterMap_cons, ht]
    rfl

/-- In a sound store all rows are listed. -/
lemma Sound.exists_list {h : History} (hs : Sound h) :
    ∃ tenants, h.store.list = .ok tenants ∧ tenants.Pairwise (fun a b => a.slug ≤ b.slug) ∧
      tenants.Perm (h.store.tenants.collect Tenant.ofText?) := by
  have hperm : h.store.rows.Perm h.store.tenants.toList := List.mergeSort_perm _ _
  have hread : ∀ row ∈ h.store.rows, ∃ t, Tenant.ofText? row.2 = some t := by
    intro row hrow
    have hmem := Assoc.get?_eq_some_iff.2 (hperm.mem_iff.1 hrow)
    obtain ⟨t, ht, -⟩ := (hs.keeps row.1 row.2 hmem).exists_ofText?
    exact ⟨t, ht⟩
  set found := h.store.rows.filterMap fun row => Tenant.ofText? row.2
  have hlist : h.store.list = .ok (found.mergeSort fun a b => decide (a.slug ≤ b.slug)) := by
    rw [list, mapM_decode hread]
    rfl
  exact ⟨_, hlist, pairwise_mergeSort_key Tenant.slug found,
    (List.mergeSort_perm _ _).trans (hperm.filterMap _)⟩

/-- The tables of a store agree with each other, with `tenants` as its list, and with the tenants
that were created. -/
structure Consistent (h : History) (tenants : List Tenant) : Prop where
  /-- Every row can be read, and is kept under the identifier that it names. -/
  row : ∀ id row, h.store.tenants.get? id = some row →
    ∃ t, decode row = .ok t ∧ t.id = id ∧ t.slug.toList ∈ Slug.language
  /-- The index has the slugs of the rows and no others. -/
  index : ∀ slug id,
    h.store.slugs.get? slug = some id ↔ ∃ t, h.store.get id = .ok (some t) ∧ t.slug = slug
  /-- A slug has one row. -/
  unique : ∀ id id' t t', h.store.get id = .ok (some t) → h.store.get id' = .ok (some t') →
    t.slug = t'.slug → id = id'
  /-- The list succeeds. -/
  list : h.store.list = .ok tenants
  /-- The list is in order. -/
  ascending : (tenants.map Tenant.slug).Pairwise (· < ·)
  /-- The list has what is found by identifiers. -/
  mem : ∀ t, t ∈ tenants ↔ h.store.get t.id = .ok (some t)
  /-- What is found by a slug is what the list has with it. -/
  find : ∀ slug, h.store.getBySlug slug = .ok (tenants.find? fun t => t.slug = slug)
  /-- The list has each tenant that was created once. -/
  created : (tenants.map Tenant.lasting).Perm (h.created.map Tenant.lasting)

lemma Sound.get_of_get? {h : History} (hs : Sound h) {id : TenantId} {row : String}
    (hrow : h.store.tenants.get? id = some row) :
    ∃ t, h.store.get id = .ok (some t) ∧ decode row = .ok t ∧ t.id = id := by
  obtain ⟨t, hread, hid, -⟩ := (hs.keeps id row hrow).exists_ofText?
  have hdecode := decode_eq_ok_iff.2 hread
  exact ⟨t, get_eq_ok_some_iff.2 ⟨row, hrow, hdecode⟩, hdecode, hid⟩

/-- What is found by an identifier is a tenant that was created. -/
lemma Sound.exists_created {h : History} (hs : Sound h) {id : TenantId} {t : Tenant}
    (hget : h.store.get id = .ok (some t)) :
    t.id = id ∧ ∃ u ∈ h.created, u.slug = t.slug ∧ u.id = id := by
  obtain ⟨row, hrow, hdecode⟩ := get_eq_ok_some_iff.1 hget
  obtain ⟨t', -, hdecode', hid⟩ := hs.get_of_get? hrow
  obtain rfl : t' = t := Except.ok.inj (hdecode'.symm.trans hdecode)
  have hlasts : lasting? row = some t'.lasting := by
    rw [lasting?, decode_eq_ok_iff.1 hdecode, Option.map_some]
  have hmem := hs.lasting.mem_iff.1 (Assoc.mem_collect.2 ⟨id, row, hrow, hlasts⟩)
  obtain ⟨u, hu, hlasting⟩ := List.mem_map.1 hmem
  have hslug : u.lasting.slug = t'.lasting.slug := by rw [hlasting]
  have huid : u.lasting.id = t'.lasting.id := by rw [hlasting]
  exact ⟨hid, u, hu, hslug, huid.trans hid⟩

/-- A tenant that was created is found by its identifier. -/
lemma Sound.exists_get {h : History} (hs : Sound h) {u : Tenant} (hu : u ∈ h.created) :
    ∃ t, h.store.get u.id = .ok (some t) ∧ t.slug = u.slug := by
  have hmem := hs.lasting.mem_iff.2 (List.mem_map_of_mem hu)
  obtain ⟨id, row, hrow, hlasts⟩ := Assoc.mem_collect.1 hmem
  obtain ⟨t, hread, hlasting⟩ := Option.map_eq_some_iff.1 hlasts
  obtain ⟨t', hget, hdecode, hid⟩ := hs.get_of_get? hrow
  obtain rfl : t = t' := Option.some.inj (hread.symm.trans (decode_eq_ok_iff.1 hdecode))
  have hslug : t.lasting.slug = u.lasting.slug := by rw [hlasting]
  have huid : t.lasting.id = u.lasting.id := by rw [hlasting]
  rw [Tenant.lasting_id, Tenant.lasting_id, hid] at huid
  exact ⟨t, huid ▸ hget, hslug⟩

/-- The index has the slugs of what is found by identifiers. -/
lemma Sound.slugs_iff_get {h : History} (hs : Sound h) (slug : String) (id : TenantId) :
    h.store.slugs.get? slug = some id ↔ ∃ t, h.store.get id = .ok (some t) ∧ t.slug = slug := by
  rw [hs.slugs]
  constructor
  · rintro ⟨u, hu, rfl, rfl⟩
    exact hs.exists_get hu
  · rintro ⟨t, hget, rfl⟩
    exact (hs.exists_created hget).2

/-- The rows hold what is found by identifiers. -/
lemma Sound.mem_collect_iff {h : History} (hs : Sound h) (t : Tenant) :
    t ∈ h.store.tenants.collect Tenant.ofText? ↔ h.store.get t.id = .ok (some t) := by
  rw [Assoc.mem_collect, get_eq_ok_some_iff]
  constructor
  · rintro ⟨id, row, hrow, hread⟩
    obtain ⟨t', -, hdecode, hid⟩ := hs.get_of_get? hrow
    obtain rfl : t' = t := Option.some.inj ((decode_eq_ok_iff.1 hdecode).symm.trans hread)
    exact ⟨row, hid ▸ hrow, hdecode⟩
  · rintro ⟨row, hrow, hdecode⟩
    exact ⟨t.id, row, hrow, decode_eq_ok_iff.1 hdecode⟩

/-- A list of what is found by identifiers finds by slugs what the index finds. -/
lemma Sound.getBySlug_eq {h : History} (hs : Sound h) {tenants : List Tenant}
    (hmem : ∀ t, t ∈ tenants ↔ h.store.get t.id = .ok (some t))
    (hnodup : (tenants.map Tenant.slug).Nodup) (slug : String) :
    h.store.getBySlug slug = .ok (tenants.find? fun t => t.slug = slug) := by
  cases hslug : h.store.slugs.get? slug with
  | none =>
    have hnone : tenants.find? (fun t => t.slug = slug) = none := by
      rw [List.find?_eq_none]
      intro t ht heq
      have hget := (hmem t).1 ht
      rw [(hs.slugs_iff_get slug t.id).2 ⟨t, hget, by simpa using heq⟩] at hslug
      cases hslug
    simp only [getBySlug, hslug, hnone]
  | some id =>
    obtain ⟨t, hget, rfl⟩ := (hs.slugs_iff_get slug id).1 hslug
    have hid := (hs.exists_created hget).1
    have ht : t ∈ tenants := (hmem t).2 (hid.symm ▸ hget)
    simp only [getBySlug, hslug, hget, find?_of_nodup hnodup ht]

/-- In every store that admissible changes lead to, the rows can be read, the index has exactly
their slugs, and identifiers, slugs and the list find the same tenants. -/
theorem consistent_of_reachable {h : History} (hr : Reachable Change.Admissible h) :
    ∃ tenants, Consistent h tenants := by
  have hs := sound_of_reachable hr
  obtain ⟨tenants, hlist, hsorted, hperm⟩ := hs.exists_list
  have hmem : ∀ t, t ∈ tenants ↔ h.store.get t.id = .ok (some t) :=
    fun t => hperm.mem_iff.trans (hs.mem_collect_iff t)
  have hcreated : (tenants.map Tenant.lasting).Perm (h.created.map Tenant.lasting) := by
    refine .trans ?_ hs.lasting
    have hmap := hperm.map Tenant.lasting
    rwa [Assoc.collect, List.map_filterMap] at hmap
  have hnodup : (tenants.map Tenant.slug).Nodup := by
    have hslugs := hcreated.map Tenant.slug
    rw [List.map_map, List.map_map] at hslugs
    exact hslugs.nodup_iff.2 hs.nodup
  refine ⟨tenants, ?_, hs.slugs_iff_get, ?_, hlist, ?_, hmem, hs.getBySlug_eq hmem hnodup, hcreated⟩
  · intro id row hrow
    obtain ⟨t, hget, hdecode, hid⟩ := hs.get_of_get? hrow
    obtain ⟨-, u, hu, hslug, -⟩ := hs.exists_created hget
    exact ⟨t, hdecode, hid, hslug ▸ Slug.check_eq_ok_iff.1 (hs.check u hu)⟩
  · intro id id' t t' hget hget' hslug
    have hid := (hs.slugs_iff_get t.slug id).2 ⟨t, hget, rfl⟩
    have hid' := (hs.slugs_iff_get t.slug id').2 ⟨t', hget', hslug.symm⟩
    exact Option.some.inj (hid.symm.trans hid')
  · rw [List.pairwise_map]
    rw [List.Nodup, List.pairwise_map] at hnodup
    exact (hsorted.and hnodup).imp fun h => lt_of_le_of_ne h.1 h.2

/-- Two tenants are created, a third one with the slug of the second is not, and the first one is
suspended. -/
def twoTenants : History :=
  History.start
    |>.next (.create "1" 5 { Tenant.new "beta" "Beta" "db1" 5432 "beta_db" with
      settings := [("limits", .array [.number (.float ⟨false, 3, -1⟩)])] })
    |>.next (.create "2" 6 (Tenant.new "alpha" "Alpha" "db1" 5432 "alpha_db"))
    |>.next (.create "3" 7 (Tenant.new "alpha" "Again" "db2" 5432 "again_db"))
    |>.next (.updateStatus "1" .suspended 8)

lemma reachable_twoTenants : Reachable Change.Admissible twoTenants := by
  have hport : 5432 ≤ 65535 := by decide
  refine .next (.next (.next (.next .start ?beta) ?alpha) ?again) ?suspend
  case beta =>
    have hnew := Tenant.wellFormed_new "beta" "Beta" "db1" "beta_db" hport
    refine ⟨rfl, by decide, ⟨⟨hport, hnew.createdAt, hnew.updatedAt⟩,
      List.pairwise_singleton _ _, ?_⟩, Nat.le_of_ble_eq_true rfl⟩
    have hrange : Binary64.InRange ⟨false, 3, -1⟩ := by decide
    exact ⟨⟨hrange, trivial⟩, trivial⟩
  case alpha =>
    exact ⟨by decide +kernel, by decide, Tenant.wellFormed_new _ _ _ _ hport,
      Tenant.isShallow_new _ _ _ _ _⟩
  case again =>
    exact ⟨by decide +kernel, by decide, Tenant.wellFormed_new _ _ _ _ hport,
      Tenant.isShallow_new _ _ _ _ _⟩
  case suspend => exact Nat.le_of_ble_eq_true rfl

theorem consistent_twoTenants :
    twoTenants.created.map Tenant.slug = ["beta", "alpha"] ∧
      Reachable Change.Admissible twoTenants ∧ ∃ tenants, Consistent twoTenants tenants :=
  ⟨by decide +kernel, reachable_twoTenants, consistent_of_reachable reachable_twoTenants⟩

end Tenancy.Store
