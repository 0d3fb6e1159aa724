import Mathlib.Computability.Language
import Tenancy.Tenant.Basic

/-!
# The language of slugs

`Slug.check` accepts the words of one regular language: `check_eq_ok_iff`.
-/

namespace Tenancy.Slug

open Computability

/-- The words of one character that satisfies `p`. -/
def single (p : Char → Bool) : Language Char := {cs | ∃ c, p c = true ∧ cs = [c]}

/-- Lower-case letters and digits. -/
def isAlphanumeric (c : Char) : Bool := c.isLower || c.isDigit

/-- Words of lower-case letters, digits and hyphens that start and end with a letter or digit:
`[a-z0-9]([a-z0-9-]*[a-z0-9])?`. -/
def language : Language Char :=
  single isAlphanumeric * (1 + (single isAllowed)∗ * single isAlphanumeric)

lemma mem_kstar_single {p : Char → Bool} {cs : List Char} :
    cs ∈ (single p)∗ ↔ ∀ c ∈ cs, p c = true := by
  rw [Language.mem_kstar]
  constructor
  · rintro ⟨words, rfl, hwords⟩ c hc
    obtain ⟨word, hword, hmem⟩ := List.mem_flatten.1 hc
    obtain ⟨c', hp, rfl⟩ := hwords word hword
    rw [List.mem_singleton.1 hmem]
    exact hp
  · intro h
    refine ⟨cs.map fun c => [c], by rw [← List.flatMap_def, List.flatMap_singleton'], ?_⟩
    intro word hword
    obtain ⟨c, hc, rfl⟩ := List.mem_map.1 hword
    exact ⟨c, h c hc, rfl⟩

lemma isAllowed_of_isAlphanumeric {c : Char} (h : isAlphanumeric c = true) :
    isAllowed c = true ∧ c ≠ '-' := by
  refine ⟨by rw [isAllowed, ← isAlphanumeric, h, Bool.true_or], ?_⟩
  rintro rfl
  cases h

lemma isAlphanumeric_of_isAllowed {c : Char} (h : isAllowed c = true) (hne : c ≠ '-') :
    isAlphanumeric c = true := by
  simpa [isAllowed, isAlphanumeric, hne] using h

/-- The words of the language are the nonempty ones of allowed characters without a hyphen at
either end. -/
lemma mem_language_iff {cs : List Char} :
    cs ∈ language ↔ cs ≠ [] ∧ cs.head? ≠ some '-' ∧ cs.getLast? ≠ some '-' ∧
      ∀ c ∈ cs, isAllowed c = true := by
  constructor
  · rintro ⟨_, ⟨first, hfirst, rfl⟩, tail, htail, rfl⟩
    obtain ⟨hfirst, hfirstNe⟩ := isAllowed_of_isAlphanumeric hfirst
    rcases htail with htail | ⟨mid, hmid, _, ⟨last, hlast, rfl⟩, rfl⟩
    · cases Language.mem_one _ |>.1 htail
      simp [hfirst, hfirstNe]
    · obtain ⟨hlast, hlastNe⟩ := isAllowed_of_isAlphanumeric hlast
      have hmid := mem_kstar_single.1 hmid
      have hend : ([first] ++ (mid ++ [last])).getLast? = some last := by
        rw [← List.append_assoc, List.getLast?_concat]
      refine ⟨by simp, by simpa using hfirstNe, ?_, ?_⟩
      · rw [hend]
        simpa using hlastNe
      · intro c hc
        simp only [List.singleton_append, List.mem_cons, List.mem_append, List.not_mem_nil,
          or_false] at hc
        rcases hc with rfl | hc | rfl
        · exact hfirst
        · exact hmid c hc
        · exact hlast
  · rintro ⟨hne, hhead, hlast, hall⟩
    obtain ⟨first, tail, rfl⟩ := List.exists_cons_of_ne_nil hne
    have hfirst := isAlphanumeric_of_isAllowed (hall first List.mem_cons_self)
      (by simpa using hhead)
    refine ⟨[first], ⟨first, hfirst, rfl⟩, tail, ?_, rfl⟩
    rcases List.eq_nil_or_concat' tail with rfl | ⟨mid, last, rfl⟩
    · exact .inl rfl
    · have hlastAllowed := hall last (by simp)
      rw [← List.cons_append, List.getLast?_concat] at hlast
      have hlastAlnum := isAlphanumeric_of_isAllowed hlastAllowed (by simpa using hlast)
      refine .inr ⟨mid, mem_kstar_single.2 fun c hc => hall c (by simp [hc]), [last],
        ⟨last, hlastAlnum, rfl⟩, rfl⟩

theorem check_eq_ok_iff {slug : String} : check slug = .ok () ↔ slug.toList ∈ language := by
  rw [mem_language_iff]
  simp only [check]
  split_ifs with hnil hedge
  · simp [hnil]
  · constructor
    · intro h
      cases h
    · rintro ⟨-, hhead, hlast, -⟩
      exact absurd hedge (not_or.2 ⟨hhead, hlast⟩)
  · rw [not_or] at hedge
    cases hfind : slug.toList.find? fun c => !isAllowed c with
    | none =>
      have hall : ∀ c ∈ slug.toList, isAllowed c = true := by simpa using hfind
      exact iff_of_true rfl ⟨hnil, hedge.1, hedge.2, hall⟩
    | some c =>
      refine iff_of_false nofun ?_
      rintro ⟨-, -, -, hall⟩
      have hbad := List.find?_some hfind
      rw [hall c (List.mem_of_find?_eq_some hfind)] at hbad
      cases hbad

end Tenancy.Slug
