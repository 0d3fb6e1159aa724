import Tenancy.Proofs.Json.Meaning
import Tenancy.Tenant.Record

/-!
# Reading back the record of a tenant

The record that is written for a tenant is read back as the tenant with whatever is read for its
settings, `ofText?_text`. Those are settings like the ones that were written if they are not nested
too deeply, `exists_ofText?_text`.
-/

namespace Tenancy.Tenant

open Json (spelled)

/-- Whether the numbers of a tenant are of their sizes. -/
structure Sized (t : Tenant) : Prop where
  port : t.port ≤ 65535
  createdAt : t.createdAt ≤ Text.maxWord
  updatedAt : t.updatedAt ≤ Text.maxWord

/-- Whether the numbers of a tenant are of their sizes and its settings are well formed. -/
structure WellFormed (t : Tenant) : Prop extends t.Sized where
  settings : (Json.object t.settings).WellFormed

/-- Whether the settings of a tenant are nested no deeper than what is read inside a record. -/
def IsShallow (t : Tenant) : Prop :=
  (Json.object t.settings).depth ≤ Json.depthLimit - 1

lemma wellFormed_new (slug displayName host database : String) {port : ℕ} (h : port ≤ 65535) :
    (Tenant.new slug displayName host port database).WellFormed :=
  ⟨⟨h, Nat.zero_le _, Nat.zero_le _⟩, List.Pairwise.nil, trivial⟩

lemma isShallow_new (slug displayName host database : String) (port : ℕ) :
    (Tenant.new slug displayName host port database).IsShallow :=
  Nat.le_of_ble_eq_true rfl

/-- The tenant with zero in place of the binary numbers of its settings. -/
def outline (t : Tenant) : Tenant :=
  { t with settings := Json.outlineMembers t.settings }

/-- What stays of a tenant when its status is changed, with zero in place of the binary numbers of
its settings. -/
def lasting (t : Tenant) : Tenant :=
  { t.outline with status := .active, updatedAt := 0 }

@[simp] lemma lasting_id (t : Tenant) : t.lasting.id = t.id := rfl

@[simp] lemma lasting_slug (t : Tenant) : t.lasting.slug = t.slug := rfl

@[simp] lemma lasting_change (t : Tenant) (status : Status) (updatedAt : ℕ) :
    Tenant.lasting { t with status, updatedAt } = t.lasting := rfl

lemma lasting_eq_of_outline {t u : Tenant} (h : t.outline = u.outline) :
    t.lasting = u.lasting := by
  rw [lasting, lasting, h]

lemma natural?_ofNat {limit n : ℕ} (hlimit : limit ≤ Text.maxWord) (h : n ≤ limit) :
    Json.Syntax.natural? limit (spelled (.ofNat n)) = some n := by
  have hle : (n : ℤ) ≤ Json.greatestInteger := Int.ofNat_le.2 (h.trans hlimit)
  have hleast : Json.leastInteger ≤ (n : ℤ) := le_trans (by decide) (Int.natCast_nonneg n)
  rw [Json.ofNat, spelled, Json.Syntax.natural?, Json.number?_ofInt ⟨hleast, hle⟩]
  exact if_pos h

/-- The record that is written has every field once, in the order of the names. -/
lemma record?_spelled (t : Tenant) :
    (spelled t.toJson).record? fieldNames = some ⟨fieldNames.zip
      [.string (some t.id), .string (some t.slug), .string (some t.displayName),
        .string (some t.database), .string (some t.host), spelled (.ofNat t.port),
        .string (some t.status.name), .string (some t.plan.name), spelled (.object t.settings),
        spelled (.ofNat t.createdAt), spelled (.ofNat t.updatedAt)], false⟩ :=
  rfl

lemma ofSyntax?_spelled {t : Tenant} (h : t.Sized) :
    ofSyntax? (spelled t.toJson) =
      (readSettings? (spelled (.object t.settings))).map fun settings => { t with settings } := by
  rw [ofSyntax?, record?_spelled]
  -- Every field is found under its name.
  change (do
    let port ← Json.Syntax.natural? 65535 (spelled (.ofNat t.port))
    let status ← Status.ofName? t.status.name
    let plan ← Plan.ofName? t.plan.name
    let settings ← readSettings? (spelled (.object t.settings))
    let createdAt ← Json.Syntax.natural? Text.maxWord (spelled (.ofNat t.createdAt))
    let updatedAt ← Json.Syntax.natural? Text.maxWord (spelled (.ofNat t.updatedAt))
    return { t with port, status, plan, settings, createdAt, updatedAt }) = _
  rw [natural?_ofNat (by decide) h.port, natural?_ofNat le_rfl h.createdAt,
    natural?_ofNat le_rfl h.updatedAt, Status.ofName?_name, Plan.ofName?_name]
  cases readSettings? (spelled (.object t.settings)) <;> rfl

/-- The record of a tenant is read back with all its fields, and with whatever is read for its
settings. -/
theorem ofText?_text {t : Tenant} (h : t.Sized) :
    ofText? t.text =
      (readSettings? (spelled (.object t.settings))).map fun settings => { t with settings } := by
  rw [ofText?, text, Json.ofText?_text, Option.bind_some, ofSyntax?_spelled h]

lemma eq_of_ofText?_text {t u : Tenant} (h : t.Sized) (hread : ofText? t.text = some u) :
    u = { t with settings := u.settings } := by
  rw [ofText?_text h] at hread
  obtain ⟨settings, -, rfl⟩ := Option.map_eq_some_iff.1 hread
  rfl

/-- A tenant whose settings are not nested too deeply is read back up to their binary numbers. -/
theorem exists_ofText?_text {t : Tenant} (h : t.WellFormed) (hshallow : t.IsShallow) :
    ∃ u, ofText? t.text = some u ∧ u.WellFormed ∧ u.IsShallow ∧ u.outline = t.outline := by
  obtain ⟨j, hread, hwell, hout⟩ := Json.exists_toJson? _ h.settings hshallow
  obtain ⟨settings, rfl⟩ := Json.exists_object_of_outline hout
  have hmembers : Json.outlineMembers settings = Json.outlineMembers t.settings := by
    simpa [Json.outline] using hout
  have hdepth : (Json.object settings).depth = (Json.object t.settings).depth := by
    rw [← Json.depth_outline, hout, Json.depth_outline]
  refine ⟨{ t with settings }, ?_, ⟨⟨h.port, h.createdAt, h.updatedAt⟩, hwell⟩, ?_, ?_⟩
  · simp [ofText?_text h.toSized, readSettings?, hread]
  · rw [IsShallow, hdepth]
    exact hshallow
  · rw [outline, outline, hmembers]

end Tenancy.Tenant
