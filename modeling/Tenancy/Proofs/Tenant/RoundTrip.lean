import Tenancy.Proofs.Json.Exact
import Tenancy.Proofs.Tenant.Record

/-!
# Records of tenants without binary numbers

A tenant whose settings have no binary numbers is read back from its record as it is, unless the
settings nest too deeply, and whatever order they are written in: `ofText?_text_of_perm`. What is
read from any text is such a tenant, and so a record that was read once stays what it is,
`record_round_trip`.
-/

namespace Tenancy.Tenant

open Json (spelled)

variable {t : Tenant} {settings : List (String × Json)}

/-- Whether all numbers of the settings are integers. -/
def isIntegral (t : Tenant) : Bool := (Json.object t.settings).isIntegral

instance (t : Tenant) : Decidable t.IsShallow :=
  inferInstanceAs (Decidable (_ ≤ _))

/-- The tenant is read back from its record, in whatever order the settings are written. -/
def ReadsBack (t : Tenant) : Prop :=
  ∀ settings : List (String × Json), settings.Perm t.settings →
    ofText? { t with settings }.text = some t

/-! ### Reading what was written -/

lemma readSettings?_spelled {sorted : List (String × Json)} (hperm : settings.Perm sorted)
    (h : (Json.object sorted).WellFormed) (hi : (Json.object sorted).isIntegral = true) :
    readSettings? (spelled (.object settings)) =
      if (Json.object sorted).depth ≤ Json.depthLimit - 1 then some sorted else none := by
  rw [readSettings?, Json.toJson?_spelled_of_perm hperm h hi]
  split_ifs <;> rfl

/-- A record with settings in any order is read back as the tenant, or refused because the settings
nest too deeply. -/
theorem ofText?_text_of_perm (h : t.WellFormed) (hi : t.isIntegral = true)
    (hperm : settings.Perm t.settings) :
    ofText? { t with settings }.text = if t.IsShallow then some t else none := by
  have hsized : ({ t with settings } : Tenant).Sized := ⟨h.port, h.createdAt, h.updatedAt⟩
  rw [ofText?_text hsized, readSettings?_spelled hperm h.settings hi]
  by_cases hshallow : t.IsShallow
  · exact (congrArg _ (if_pos hshallow)).trans (if_pos hshallow).symm
  · exact (congrArg _ (if_neg hshallow)).trans (if_neg hshallow).symm

lemma readsBack (h : t.WellFormed) (hi : t.isIntegral = true) (hshallow : t.IsShallow) :
    t.ReadsBack := by
  intro settings hperm
  rw [ofText?_text_of_perm h hi hperm, if_pos hshallow]

/-! ### Writing what was read -/

lemma natural?_le {limit n : ℕ} {s : Json.Syntax} (h : s.natural? limit = some n) :
    n ≤ limit := by
  unfold Json.Syntax.natural? at h
  split at h
  next =>
    split at h
    next =>
      split_ifs at h with hle
      cases h
      exact hle
    next => cases h
  next => cases h

/-- The settings that are read are in order and not nested too deeply. -/
lemma wellFormed_of_readSettings? {s : Json.Syntax} (h : readSettings? s = some settings) :
    ((Json.object settings).isIntegral = true → (Json.object settings).WellFormed) ∧
      (Json.object settings).depth ≤ Json.depthLimit - 1 := by
  unfold readSettings? at h
  split at h
  next members hread =>
    cases h
    exact Json.wellFormed_of_toJson? s hread
  next => cases h

/-- What is read is a tenant whose numbers are of their sizes, and whose settings are in order and
not nested too deeply. -/
theorem wellFormed_of_ofText? {s : String} (h : ofText? s = some t) :
    (t.isIntegral = true → t.WellFormed) ∧ t.IsShallow := by
  obtain ⟨written, -, hread⟩ := Option.bind_eq_some_iff.1 h
  obtain ⟨r, -, hread⟩ := Option.bind_eq_some_iff.1 hread
  iterate 5 obtain ⟨_, -, hread⟩ := Option.bind_eq_some_iff.1 hread
  obtain ⟨port, hport, hread⟩ := Option.bind_eq_some_iff.1 hread
  iterate 2 obtain ⟨_, -, hread⟩ := Option.bind_eq_some_iff.1 hread
  obtain ⟨settings, hsettings, hread⟩ := Option.bind_eq_some_iff.1 hread
  obtain ⟨createdAt, hcreated, hread⟩ := Option.bind_eq_some_iff.1 hread
  obtain ⟨updatedAt, hupdated, hread⟩ := Option.bind_eq_some_iff.1 hread
  cases hread
  obtain ⟨_, -, hport⟩ := Option.bind_eq_some_iff.1 hport
  obtain ⟨_, -, hcreated⟩ := Option.bind_eq_some_iff.1 hcreated
  obtain ⟨_, -, hupdated⟩ := Option.bind_eq_some_iff.1 hupdated
  have hkept : ((Json.object settings).isIntegral = true → (Json.object settings).WellFormed) ∧
      (Json.object settings).depth ≤ Json.depthLimit - 1 := by
    unfold Record.defaulted at hsettings
    split at hsettings
    next =>
      cases hsettings
      exact ⟨fun _ => ⟨List.Pairwise.nil, trivial⟩, Nat.le_of_ble_eq_true rfl⟩
    next => exact wellFormed_of_readSettings? hsettings
  exact ⟨fun hi => ⟨⟨natural?_le hport, natural?_le hcreated, natural?_le hupdated⟩, hkept.1 hi⟩,
    hkept.2⟩

/-- A tenant whose settings have no binary numbers is read back from its record if they do not nest
too deeply. A tenant that was read from any text is of this kind, if its settings have no binary
numbers: to write and to read it again changes nothing. -/
theorem record_round_trip :
    (∀ t : Tenant, t.WellFormed → t.isIntegral = true → t.IsShallow → t.ReadsBack) ∧
    ∀ (s : String) (t : Tenant), ofText? s = some t → t.isIntegral = true →
      t.WellFormed ∧ t.IsShallow ∧ t.ReadsBack := by
  refine ⟨fun t => readsBack, fun s t h hi => ?_⟩
  obtain ⟨hwell, hshallow⟩ := wellFormed_of_ofText? h
  exact ⟨hwell hi, hshallow, readsBack (hwell hi) hi hshallow⟩

/-- A tenant with quotation marks, control characters and characters of all planes in its texts, and
with the least and the greatest integer in its settings. -/
def motley : Tenant :=
  { Tenant.new "acme" "A\"c\\m\ne\x01" "db.local" 5432 "ac\x7fme" with
    id := "\u2028😀"
    plan := .premium
    settings :=
      [("\t", .string "/\x0c"),
        ("limits", .array [.object [("least", .number (.integer (-9223372036854775808))),
          ("most", .ofNat 18446744073709551615)], .null])]
    createdAt := 18446744073709551615 }

/-- The lines of a record of the same tenant in other words. The fields and the settings are in
another order, with other escapes and a further member. -/
def motleyLines : List String :=
  ["\x7b \"updated_at\": 0,", "\"slug\" :\"ac\\u006de\",\n", "\"note\":[1e999, \"\\ud800\"],\r\n",
    "\"settings\":\x7b\"limits\":[\x7b", "\"most\":18446744073709551615,",
    "\"least\":-9223372036854775808\x7d, null],", "\"\\t\":\"\\/\\f\"\x7d,",
    "\"display_name\":", "\"A\\\"c\\\\m\\ne\\u0001\",", "\"plan\":\x7b\"premium\":null\x7d,",
    "\"status\":\"active\",\t", "\"db_name\":\"ac\x7fme\",", "\"db_host\":\"db.local\",",
    "\"db_port\":5432,", "\"created_at\":18446744073709551615,",
    "\"id\":\"\\u2028\\ud83d\\ude00\"\x7d"]

/-- The record of these lines. -/
def motleyText : String := String.ofList (motleyLines.flatMap String.toList)

/-- The tenant is read back with its settings in the other order, and it is read from the other
text. -/
theorem record_round_trip_motley :
    motley.WellFormed ∧ motley.IsShallow ∧
    ofText? { motley with settings := motley.settings.reverse }.text = some motley ∧
    ofText? motleyText = some motley := by
  have hwell : motley.WellFormed :=
    ⟨⟨by decide, by decide, by decide⟩, by decide, trivial,
      ⟨⟨by decide, ⟨by decide, by decide⟩, ⟨by decide, by decide⟩, trivial⟩, trivial, trivial⟩,
      trivial⟩
  have hshallow : motley.IsShallow := by decide
  have hback := record_round_trip.1 motley hwell (by decide) hshallow
  refine ⟨hwell, hshallow, hback _ (List.reverse_perm _), ?_⟩
  have hread : (ofText? motleyText).map (fun t => (Json.write t.toJson, t.isIntegral)) =
      some (Json.write motley.toJson, true) := by
    rw [ofText?, Json.Syntax.ofText?, motleyText, String.toList_ofList]
    decide +kernel
  obtain ⟨t, ht, heq⟩ := Option.map_eq_some_iff.1 hread
  obtain ⟨hwrite, hi⟩ := Prod.mk.inj heq
  have htext : t.text = motley.text := congrArg String.ofList hwrite
  -- Both are read from the text that is written for either of them.
  obtain ⟨-, -, hagain⟩ := record_round_trip.2 motleyText t ht hi
  rw [ht, ← hagain t.settings (.refl _)]
  exact (congrArg ofText? htext).trans (hback motley.settings (.refl _))

end Tenancy.Tenant
