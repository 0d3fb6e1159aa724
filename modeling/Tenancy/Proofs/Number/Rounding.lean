import Mathlib.Algebra.Order.Field.Rat
import Mathlib.Algebra.Order.Field.Power
import Mathlib.Data.Nat.Log
import Mathlib.Tactic.FieldSimp
import Mathlib.Tactic.Linarith
import Mathlib.Tactic.NormNum
import Mathlib.Tactic.Positivity
import Mathlib.Tactic.Ring
import Tenancy.Number.Binary64

/-!
# How far rounding goes

Rounding gives a number of the format as long as the exact result lies below the bound at which the
greatest number would be passed, and it changes a result by no more than one part in `2 ^ 53`, or by
half of the least number: `round_of_lt`. Products, quotients and the powers of ten follow.
-/

namespace Tenancy.Binary64

/-! ### Numbers of the format -/

/-- The significand and the exponent are those of a finite number. -/
structure InRange (x : Binary64) : Prop where
  significand_lt : x.significand < 2 * halfRange
  least_le : leastExponent ≤ x.exponent
  le_greatest : x.exponent ≤ greatestExponent

lemma halfRange_lt : halfRange < 2 * halfRange := by decide

lemma inRange_zero (negative : Bool) : InRange ⟨negative, 0, leastExponent⟩ :=
  ⟨Nat.zero_lt_succ _, le_rfl, Int.le.intro 2045 rfl⟩

instance (x : Binary64) : Decidable x.InRange :=
  decidable_of_iff (x.significand < 2 * halfRange ∧ leastExponent ≤ x.exponent ∧
    x.exponent ≤ greatestExponent) ⟨fun ⟨a, b, c⟩ => ⟨a, b, c⟩, fun ⟨a, b, c⟩ => ⟨a, b, c⟩⟩

/-- The magnitude of a number. -/
def magnitude (x : Binary64) : ℚ := x.significand * 2 ^ x.exponent

/-- What has to be rounded lies below this, halfway between the greatest number and the power of two
that comes next. -/
def threshold : ℚ := (2 * (2 * halfRange) - 1) * 2 ^ (970 : ℤ)

/-- By how much rounding changes a result, at most. -/
def slack (v : ℚ) : ℚ := v / 2 ^ 53 + 2 ^ (-1075 : ℤ)

lemma magnitude_nonneg (x : Binary64) : 0 ≤ x.magnitude := by
  rw [magnitude]
  positivity

lemma withSign_inRange {x : Binary64} (h : x.InRange) (negative : Bool) :
    (x.withSign negative).InRange :=
  ⟨h.significand_lt, h.least_le, h.le_greatest⟩

lemma tenTo_eq (n : ℕ) : tenTo n = 10 ^ n := rfl

/-! ### Quotients of natural numbers -/

lemma ratio_pos (x : Binary64) : 0 < x.ratio.2 := by
  rw [ratio]
  split
  · exact Nat.one_pos
  · exact Nat.two_pow_pos _

lemma ratio_eq (x : Binary64) : (x.ratio.1 : ℚ) / x.ratio.2 = x.magnitude := by
  rw [ratio, magnitude]
  split
  next h =>
    obtain ⟨n, hn⟩ := Int.eq_ofNat_of_zero_le h
    simp [hn, twoTo]
  next h =>
    obtain ⟨n, hn⟩ := Int.eq_ofNat_of_zero_le (Int.neg_nonneg_of_nonpos (Int.le_of_not_le h))
    have he : x.exponent = -(n : ℤ) := by omega
    simp [he, twoTo, div_eq_mul_inv]

lemma scaled_pos (num : ℕ) {den : ℕ} (hden : 0 < den) (e : ℤ) : 0 < (scaled num den e).2 := by
  rw [scaled]
  split
  · exact Nat.mul_pos hden (Nat.two_pow_pos _)
  · exact hden

lemma scaled_eq (num den : ℕ) (e : ℤ) :
    ((scaled num den e).1 : ℚ) / (scaled num den e).2 = num / den / 2 ^ e := by
  rw [scaled]
  split
  next h =>
    obtain ⟨n, hn⟩ := Int.eq_ofNat_of_zero_le h
    simp [hn, twoTo, div_div]
  next h =>
    obtain ⟨n, hn⟩ := Int.eq_ofNat_of_zero_le (Int.neg_nonneg_of_nonpos (Int.le_of_not_le h))
    have he : e = -(n : ℤ) := by omega
    simp [he, twoTo, mul_div_right_comm]

/-- A quotient is rounded by half a unit at most. -/
lemma roundDiv_near (num : ℕ) {den : ℕ} (hden : 0 < den) :
    |(roundDiv num den : ℚ) - num / den| ≤ 1 / 2 := by
  have hdiv : den * (num / den) + num % den = num := Nat.div_add_mod num den
  have hpos : (0 : ℚ) < den := Nat.cast_pos.2 hden
  have hnat : 2 * (den * roundDiv num den) ≤ 2 * num + den ∧
      2 * num ≤ 2 * (den * roundDiv num den) + den := by
    have hlt : num % den < den := Nat.mod_lt num hden
    have hbit : num / den % 2 = 0 ∨ num / den % 2 = 1 := Nat.mod_two_eq_zero_or_one _
    simp only [roundDiv]
    split_ifs with h₁ h₂
    · omega
    · rw [Nat.mul_add]
      omega
    · rcases hbit with hbit | hbit
      · rw [hbit, Nat.add_zero]
        omega
      · rw [hbit, Nat.mul_add]
        omega
  have hle : (2 : ℚ) * (den * roundDiv num den) ≤ 2 * num + den := by exact_mod_cast hnat.1
  have hge : (2 : ℚ) * num ≤ 2 * (den * roundDiv num den) + den := by exact_mod_cast hnat.2
  have heq : (roundDiv num den : ℚ) - num / den = (den * roundDiv num den - num) / den := by
    field_simp
  rw [heq, abs_div, abs_of_pos hpos, div_le_iff₀ hpos, abs_le]
  constructor <;> linarith

/-! ### The exponent -/

lemma le_two_pow_log2 {n : ℕ} (h : n ≠ 0) : (2 : ℚ) ^ (n.log2 : ℤ) ≤ n := by
  rw [zpow_natCast]
  exact_mod_cast Nat.log2_self_le h

lemma lt_two_pow_log2 (n : ℕ) : (n : ℚ) < 2 ^ ((n.log2 : ℤ) + 1) := by
  have h : n < 2 ^ (n.log2 + 1) := Nat.lt_log2_self
  exact_mod_cast h

/-- The exponent gives the significand 53 bits. -/
lemma fittingExponent_bounds {num den : ℕ} (hnum : num ≠ 0) (hden : 0 < den) :
    (halfRange : ℚ) * 2 ^ fittingExponent num den ≤ num / den ∧
      (num : ℚ) / den < 2 * halfRange * 2 ^ fittingExponent num den := by
  have hpos : (0 : ℚ) < den := Nat.cast_pos.2 hden
  have hnumlo := le_two_pow_log2 hnum
  have hnumhi := lt_two_pow_log2 num
  have hdenlo := le_two_pow_log2 hden.ne'
  have hdenhi := lt_two_pow_log2 den
  have hhalf : (halfRange : ℚ) = 2 ^ (52 : ℤ) := by norm_num [halfRange]
  set guess : ℤ := (num.log2 : ℤ) - den.log2 - 52 with hguess
  have hlo : (halfRange : ℚ) * 2 ^ (guess - 1) ≤ num / den := by
    rw [le_div_iff₀ hpos]
    calc (halfRange : ℚ) * 2 ^ (guess - 1) * den
        ≤ halfRange * 2 ^ (guess - 1) * 2 ^ ((den.log2 : ℤ) + 1) := by gcongr
      _ = 2 ^ (num.log2 : ℤ) := by
        rw [hhalf, ← zpow_add₀ two_ne_zero, ← zpow_add₀ two_ne_zero]
        congr 1
        omega
      _ ≤ num := hnumlo
  have hhi : (num : ℚ) / den < 2 * halfRange * 2 ^ guess := by
    rw [div_lt_iff₀ hpos]
    calc (num : ℚ) < 2 ^ ((num.log2 : ℤ) + 1) := hnumhi
      _ = 2 * halfRange * 2 ^ guess * 2 ^ (den.log2 : ℤ) := by
        rw [hhalf, ← zpow_one_add₀ two_ne_zero, ← zpow_add₀ two_ne_zero, ← zpow_add₀ two_ne_zero]
        congr 1
        omega
      _ ≤ 2 * halfRange * 2 ^ guess * den := by gcongr
  have hscaled := scaled_eq num den guess
  have hd := scaled_pos num hden guess
  have hdq : (0 : ℚ) < (scaled num den guess).2 := Nat.cast_pos.2 hd
  have hcompare : (scaled num den guess).1 < (scaled num den guess).2 * halfRange ↔
      (num : ℚ) / den < halfRange * 2 ^ guess := by
    rw [← div_lt_iff₀ (by positivity : (0 : ℚ) < 2 ^ guess), ← hscaled, div_lt_iff₀' hdq]
    exact_mod_cast Iff.rfl
  have hfit : fittingExponent num den =
      if (scaled num den guess).1 < (scaled num den guess).2 * halfRange then guess - 1
      else guess := rfl
  rw [hfit]
  split_ifs with h
  · refine ⟨hlo, ?_⟩
    have hlt := hcompare.1 h
    rw [zpow_sub_one₀ two_ne_zero]
    linarith
  · exact ⟨not_lt.1 fun hlt => h (hcompare.2 hlt), hhi⟩

/-! ### Rounding -/

lemma le_slack_of_fitting {v : ℚ} {e : ℤ} (h : (halfRange : ℚ) * 2 ^ e ≤ v) :
    2 ^ e / 2 ≤ slack v := by
  have hhalf : (halfRange : ℚ) = 2 ^ 52 := by norm_num [halfRange]
  have hleast : (0 : ℚ) ≤ 2 ^ (-1075 : ℤ) := by positivity
  rw [hhalf] at h
  rw [slack]
  linarith

lemma le_slack_of_least {v : ℚ} (h : 0 ≤ v) : 2 ^ leastExponent / 2 ≤ slack v := by
  have heq : (2 : ℚ) ^ leastExponent / 2 = 2 ^ (-1075 : ℤ) := by
    rw [show (-1075 : ℤ) = leastExponent - 1 from rfl, zpow_sub_one₀ two_ne_zero, div_eq_mul_inv]
  rw [heq, slack]
  have : 0 ≤ v / 2 ^ 53 := by positivity
  linarith

lemma exponent_le_of_lt_threshold {v : ℚ} {e : ℤ} (h : (halfRange : ℚ) * 2 ^ e ≤ v)
    (hv : v < threshold) : e ≤ greatestExponent := by
  by_contra hlt
  have hle : (972 : ℤ) ≤ e := by
    rw [greatestExponent] at hlt
    omega
  have hpow : (2 : ℚ) ^ (972 : ℤ) ≤ 2 ^ e := zpow_le_zpow_right₀ one_le_two hle
  have hfour : (2 : ℚ) ^ (972 : ℤ) = 4 * 2 ^ (970 : ℤ) := by
    rw [show (972 : ℤ) = 2 + 970 from rfl, zpow_add₀ two_ne_zero]
    norm_num
  have hpos : (0 : ℚ) < 2 ^ (970 : ℤ) := by positivity
  rw [threshold] at hv
  rw [hfour] at hpow
  generalize (2 : ℚ) ^ (970 : ℤ) = unit at *
  generalize (2 : ℚ) ^ e = power at *
  have hhalf : (halfRange : ℚ) = 4503599627370496 := rfl
  rw [hhalf] at h hv
  linarith only [h, hv, hpow, hpos]

lemma round_of_ne_zero {num : ℕ} (negative : Bool) {den : ℕ} (h : num ≠ 0) :
    round negative num den =
      let e := max (fittingExponent num den) leastExponent
      let r := roundDiv (scaled num den e).1 (scaled num den e).2
      if r = 2 * halfRange then
        if greatestExponent < e + 1 then none else some ⟨negative, halfRange, e + 1⟩
      else if greatestExponent < e then none else some ⟨negative, r, e⟩ := by
  unfold round
  rw [if_neg h]
  extract_lets e r
  cases hs : scaled num den e with
  | mk n d =>
    have hr : r = roundDiv n d := congrArg (fun q => roundDiv q.1 q.2) hs
    rw [hr]
    by_cases hcarry : roundDiv n d = 2 * halfRange
    · simp only [hcarry, if_true]
    · simp only [hcarry, if_false]

/-- A significand that is off by half a unit at most makes an error that is within the slack, if its
exponent is the fitting one or the least one. -/
lemma abs_sub_le_slack {v r : ℚ} {fitting e : ℤ} (he : e = max fitting leastExponent)
    (hlo : (halfRange : ℚ) * 2 ^ fitting ≤ v) (hv : 0 ≤ v) (hnear : |r - v / 2 ^ e| ≤ 1 / 2) :
    |r * 2 ^ e - v| ≤ slack v := by
  have hpow : (0 : ℚ) < 2 ^ e := by positivity
  have hscale : r * 2 ^ e - v = 2 ^ e * (r - v / 2 ^ e) := by field_simp
  have hhalf : |r * 2 ^ e - v| ≤ 2 ^ e / 2 := by
    rw [hscale, abs_mul, abs_of_pos hpow]
    calc 2 ^ e * |r - v / 2 ^ e| ≤ 2 ^ e * (1 / 2) := by gcongr
      _ = 2 ^ e / 2 := by ring
  rcases max_choice fitting leastExponent with hmax | hmax
  · rw [← he] at hmax
    exact hhalf.trans (le_slack_of_fitting (hmax ▸ hlo))
  · rw [← he] at hmax
    rw [hmax] at hhalf ⊢
    exact hhalf.trans (le_slack_of_least hv)

/-- A significand that is rounded to 54 bits is halved, but not at the last exponent, where the
exact result would be too large. -/
lemma exponent_lt_of_carry {v : ℚ} {e : ℤ} (hle : e ≤ greatestExponent) (hv : v < threshold)
    (hnear : |2 * (halfRange : ℚ) - v / 2 ^ e| ≤ 1 / 2) : e < greatestExponent := by
  refine lt_of_le_of_ne hle fun heq => ?_
  have hpow : (0 : ℚ) < 2 ^ e := by positivity
  have hge : (2 * (halfRange : ℚ) - 1 / 2) * 2 ^ e ≤ v := by
    rw [← le_div_iff₀ hpow]
    linarith [(abs_le.1 hnear).2]
  have htwo : (2 : ℚ) ^ e = 2 * 2 ^ (970 : ℤ) := by
    rw [heq, show greatestExponent = 1 + 970 from rfl, zpow_one_add₀ two_ne_zero]
  rw [htwo] at hge
  rw [threshold] at hv
  generalize (2 : ℚ) ^ (970 : ℤ) = unit at *
  linarith

/-- A result below the bound is rounded to a number of the format, which is near. -/
theorem round_of_lt {num den : ℕ} (negative : Bool) (hden : 0 < den)
    (h : (num : ℚ) / den < threshold) :
    ∃ x, round negative num den = some x ∧ x.InRange ∧
      |x.magnitude - num / den| ≤ slack (num / den) := by
  by_cases hnum : num = 0
  · refine ⟨⟨negative, 0, leastExponent⟩, by simp [round, hnum], inRange_zero negative, ?_⟩
    simp only [magnitude, hnum, slack, Nat.cast_zero, zero_div, zero_mul, sub_zero, abs_zero,
      zero_add]
    positivity
  obtain ⟨hlo, hhi⟩ := fittingExponent_bounds hnum hden
  set v : ℚ := num / den with hv
  set e : ℤ := max (fittingExponent num den) leastExponent with he
  set r := roundDiv (scaled num den e).1 (scaled num den e).2 with hr
  have hnear : |(r : ℚ) - v / 2 ^ e| ≤ 1 / 2 := by
    have := roundDiv_near (scaled num den e).1 (scaled_pos num hden e)
    rwa [scaled_eq] at this
  have hrle : r ≤ 2 * halfRange := by
    have hsmall : v / 2 ^ e < 2 * halfRange := by
      rw [div_lt_iff₀ (by positivity)]
      have hmono : (2 : ℚ) ^ fittingExponent num den ≤ 2 ^ e :=
        zpow_le_zpow_right₀ one_le_two (le_max_left _ _)
      exact hhi.trans_le (by gcongr)
    have hlt : (r : ℚ) < 2 * halfRange + 1 := by linarith [(abs_le.1 hnear).2]
    have : r < 2 * halfRange + 1 := by exact_mod_cast hlt
    omega
  have herror : |(r : ℚ) * 2 ^ e - v| ≤ slack v :=
    abs_sub_le_slack he hlo (by positivity) hnear
  have hegreatest : e ≤ greatestExponent := by
    apply max_le (exponent_le_of_lt_threshold hlo h)
    decide
  rw [round_of_ne_zero negative hnum]
  by_cases hcarry : r = 2 * halfRange
  · have hsucc : e + 1 ≤ greatestExponent := by
      apply exponent_lt_of_carry hegreatest h
      rw [hcarry] at hnear
      exact_mod_cast hnear
    refine ⟨_, (if_pos hcarry).trans (if_neg (not_lt.2 hsucc)), ⟨?_, ?_, hsucc⟩, ?_⟩
    · exact halfRange_lt
    · exact (le_max_right _ _).trans (Int.le_add_one le_rfl)
    · have hsame : magnitude ⟨negative, halfRange, e + 1⟩ = r * 2 ^ e := by
        rw [magnitude, hcarry, zpow_add_one₀ two_ne_zero]
        push_cast
        ring
      rwa [hsame]
  · have hrlt : r < 2 * halfRange := lt_of_le_of_ne hrle hcarry
    exact ⟨_, (if_neg hcarry).trans (if_neg (not_lt.2 hegreatest)),
      ⟨hrlt, le_max_right _ _, hegreatest⟩, herror⟩

/-! ### Products, quotients and powers of ten -/

lemma mul_of_lt {x y : Binary64} (h : x.magnitude * y.magnitude < threshold) :
    ∃ z, x.mul y = some z ∧ z.InRange := by
  have heq : ((x.ratio.1 * y.ratio.1 : ℕ) : ℚ) / (x.ratio.2 * y.ratio.2 : ℕ) =
      x.magnitude * y.magnitude := by
    rw [← ratio_eq, ← ratio_eq]
    push_cast
    exact mul_div_mul_comm _ _ _ _
  obtain ⟨z, hz, hrange, -⟩ := round_of_lt (x.negative != y.negative)
    (Nat.mul_pos x.ratio_pos y.ratio_pos) (heq ▸ h)
  exact ⟨z, hz, hrange⟩

lemma div_of_lt {x y : Binary64} (hy : 0 < y.magnitude)
    (h : x.magnitude / y.magnitude < threshold) :
    ∃ z, x.div y = some z ∧ z.InRange ∧
      z.magnitude ≤ x.magnitude / y.magnitude + slack (x.magnitude / y.magnitude) := by
  have hpos : 0 < y.ratio.1 := by
    rw [← ratio_eq] at hy
    by_contra hzero
    rw [Nat.eq_zero_of_not_pos hzero] at hy
    simp at hy
  have heq : ((x.ratio.1 * y.ratio.2 : ℕ) : ℚ) / (x.ratio.2 * y.ratio.1 : ℕ) =
      x.magnitude / y.magnitude := by
    rw [← ratio_eq, ← ratio_eq, div_div_div_eq]
    push_cast
    rfl
  obtain ⟨z, hz, hrange, hnear⟩ := round_of_lt (x.negative != y.negative)
    (Nat.mul_pos x.ratio_pos hpos) (heq ▸ h)
  rw [heq] at hnear
  refine ⟨z, hz, hrange, ?_⟩
  linarith [(abs_le.1 hnear).2]

lemma lt_threshold_of_le {v : ℚ} (h : v ≤ 10 ^ 308) : v < threshold := by
  have hnat : 10 ^ 308 < 18014398509481983 * 2 ^ 970 := by decide +kernel
  have hhalf : (2 * (2 * (halfRange : ℚ)) - 1) = 18014398509481983 := by norm_num [halfRange]
  rw [threshold, hhalf, show (970 : ℤ) = (970 : ℕ) from rfl, zpow_natCast]
  exact h.trans_lt (by exact_mod_cast hnat)

/-- What rounding adds to a whole number, relative to it. -/
lemma slack_le {n : ℕ} (h : n ≠ 0) : slack n ≤ n * (1 / 2 ^ 53 + 1 / 2 ^ 60) := by
  have hone : (1 : ℚ) ≤ n := by exact_mod_cast Nat.one_le_iff_ne_zero.2 h
  have hsmall : (2 : ℚ) ^ (-1075 : ℤ) ≤ 1 / 2 ^ 60 := by
    rw [one_div, ← zpow_natCast, ← zpow_neg]
    exact zpow_le_zpow_right₀ one_le_two (by norm_num)
  rw [slack]
  nlinarith

/-- A whole number that is not too large is rounded to a number of the format, which is near. -/
lemma round_natCast {n : ℕ} (hzero : n ≠ 0) (hle : (n : ℚ) ≤ 10 ^ 308) :
    ∃ x, round false n 1 = some x ∧ x.InRange ∧
      |x.magnitude - n| ≤ n * (1 / 2 ^ 53 + 1 / 2 ^ 60) := by
  have hlt : (n : ℚ) / (1 : ℕ) < threshold := by simpa using lt_threshold_of_le hle
  obtain ⟨x, hx, hrange, hnear⟩ := round_of_lt false Nat.one_pos hlt
  rw [Nat.cast_one, div_one] at hnear
  exact ⟨x, hx, hrange, hnear.trans (slack_le hzero)⟩

lemma ofNat_near {n : ℕ} (hzero : n ≠ 0) (hle : (n : ℚ) ≤ 10 ^ 308) :
    (ofNat n).InRange ∧ |(ofNat n).magnitude - n| ≤ n * (1 / 2 ^ 53 + 1 / 2 ^ 60) := by
  obtain ⟨x, hx, h⟩ := round_natCast hzero hle
  rwa [ofNat, hx, Option.getD_some]

lemma powerOfTen_near {k : ℕ} (hk : k ≤ 308) :
    (powerOfTen k).InRange ∧
      |(powerOfTen k).magnitude - 10 ^ k| ≤ 10 ^ k * (1 / 2 ^ 53 + 1 / 2 ^ 60) := by
  have hten : ((tenTo k : ℕ) : ℚ) = 10 ^ k := by
    rw [tenTo_eq]
    push_cast
    rfl
  have hle : ((tenTo k : ℕ) : ℚ) ≤ 10 ^ 308 := by
    rw [hten]
    exact pow_le_pow_right₀ (by norm_num) hk
  have hzero : tenTo k ≠ 0 := by
    rw [tenTo_eq]
    positivity
  obtain ⟨x, hx, h⟩ := round_natCast hzero hle
  rw [hten] at h
  rwa [powerOfTen, hx, Option.getD_some]

end Tenancy.Binary64
