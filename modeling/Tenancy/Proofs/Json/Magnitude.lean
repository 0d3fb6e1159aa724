import Tenancy.Proofs.Json.Numeral
import Tenancy.Proofs.Number.Rounding

/-!
# The binary number of a numeral

Reading a numeral takes as many of its digits as fit in a word, and then multiplies or divides by a
power of ten. `exists_magnitude` says that this stays in range for every numeral whose value is not
among the three greatest binary numbers, and `exists_number` that it does for whatever is written
for a binary number: the three are looked at one by one.
-/

namespace Tenancy.Json.Numeral

open Binary64 (InRange magnitude)

/-! ### Reading digits -/

/-- The digits that are read have no more than the value of all of them. -/
lemma accumulate_le (significand : ℕ) (digits : List Char) :
    (accumulate significand digits).1 * 10 ^ (accumulate significand digits).2 ≤
        Nat.ofDigitChars 10 digits significand ∧
      (accumulate significand digits).2 ≤ digits.length ∧
      (significand ≤ Text.maxWord → (accumulate significand digits).1 ≤ Text.maxWord) := by
  induction digits generalizing significand with
  | nil => simp [accumulate]
  | cons c rest ih =>
    simp only [accumulate]
    split
    next hle =>
      obtain ⟨hvalue, hlength, hword⟩ := ih (significand * 10 + (c.toNat - 48))
      refine ⟨?_, hlength.trans (Nat.le_succ _), fun _ => hword hle⟩
      rw [Nat.ofDigitChars_cons, Nat.mul_comm 10 significand]
      exact hvalue
    next => exact ⟨Text.le_ofDigitChars (c :: rest) significand, le_rfl, id⟩

/-- Digits of a word are all read. -/
lemma accumulate_eq {significand : ℕ} {digits : List Char}
    (h : Nat.ofDigitChars 10 digits significand ≤ Text.maxWord) :
    accumulate significand digits = (Nat.ofDigitChars 10 digits significand, 0) := by
  induction digits generalizing significand with
  | nil => rfl
  | cons c rest ih =>
    have hnext : Nat.ofDigitChars 10 (c :: rest) significand =
        Nat.ofDigitChars 10 rest (significand * 10 + (c.toNat - 48)) := by
      rw [Nat.ofDigitChars_cons, Nat.mul_comm 10 significand]
      rfl
    rw [hnext] at h ⊢
    have hle : significand * 10 + (c.toNat - 48) ≤ Text.maxWord := by
      refine le_trans ?_ ((Text.le_ofDigitChars rest _).trans h)
      exact Nat.le_mul_of_pos_right _ (Nat.pow_pos (by decide))
    rw [accumulate, if_pos hle, ih h]

/-! ### Scaling by a power of ten -/

/-- The greatest value that is known to stay in range. -/
def bound : ℚ := (2 ^ 53 - 7 / 2) * 2 ^ (971 : ℤ)

lemma ofNat_le {n : ℕ} (h : n ≤ Text.maxWord) :
    (Binary64.ofNat n).InRange ∧
      (Binary64.ofNat n).magnitude ≤ n * (1 + (1 / 2 ^ 53 + 1 / 2 ^ 60)) := by
  by_cases hzero : n = 0
  · subst hzero
    have heq : Binary64.ofNat 0 = ⟨false, 0, Binary64.leastExponent⟩ := rfl
    rw [heq]
    exact ⟨Binary64.inRange_zero false, by simp [magnitude]⟩
  · have hle : (n : ℚ) ≤ 10 ^ 308 := by
      have hnat : n ≤ 10 ^ 308 := h.trans (by decide +kernel)
      exact_mod_cast hnat
    obtain ⟨hrange, hnear⟩ := Binary64.ofNat_near hzero hle
    exact ⟨hrange, by linarith [(abs_le.1 hnear).2]⟩

lemma powerOfTen_le {k : ℕ} (hk : k ≤ 308) :
    (Binary64.powerOfTen k).magnitude ≤ 10 ^ k * (1 + (1 / 2 ^ 53 + 1 / 2 ^ 60)) ∧
      10 ^ k / 2 ≤ (Binary64.powerOfTen k).magnitude := by
  have hnear := abs_le.1 (Binary64.powerOfTen_near hk).2
  have hpos : (0 : ℚ) < 10 ^ k := by positivity
  constructor
  · linarith [hnear.2]
  · linarith [hnear.1]

lemma two_pow_le : (2 : ℚ) ^ 66 ≤ 10 ^ 308 :=
  calc (2 : ℚ) ^ 66 ≤ 10 ^ 20 := by norm_num
    _ ≤ 10 ^ 308 := pow_le_pow_right₀ (by norm_num) (by norm_num)

/-- A number that is not too large can be divided by every power of ten. -/
lemma exists_scaleDown (k : ℕ) {x : Binary64} (hx : x.InRange) (hle : x.magnitude ≤ 2 ^ 65) :
    ∃ y, scaleDown x k = some y ∧ y.InRange := by
  induction k using Nat.strongRecOn generalizing x with
  | ind k ih =>
    have hnonneg := x.magnitude_nonneg
    have hlarge := two_pow_le
    rw [scaleDown]
    split_ifs with hk hzero
    · have hpower := (powerOfTen_le hk).2
      have hten : (1 : ℚ) ≤ 10 ^ k := one_le_pow₀ (by norm_num)
      have hpos : 0 < (Binary64.powerOfTen k).magnitude := by linarith
      have hlt : x.magnitude / (Binary64.powerOfTen k).magnitude ≤ 10 ^ 308 := by
        rw [div_le_iff₀ hpos]
        generalize (10 : ℚ) ^ 308 = power at hlarge ⊢
        nlinarith
      obtain ⟨y, hy, hrange, -⟩ := Binary64.div_of_lt hpos (Binary64.lt_threshold_of_le hlt)
      exact ⟨y, hy, hrange⟩
    · exact ⟨x, rfl, hx⟩
    · have hpower : (2 : ℚ) ^ 65 ≤ largestPower.magnitude := by
        have h := (powerOfTen_le (le_refl 308)).2
        rw [← largestPower] at h
        generalize (10 : ℚ) ^ 308 = power at hlarge h
        linarith
      have hpos : 0 < largestPower.magnitude := by linarith
      have hsmall : x.magnitude / largestPower.magnitude ≤ 1 := by
        rw [div_le_one₀ hpos]
        linarith
      have hone : (1 : ℚ) ≤ 10 ^ 308 := one_le_pow₀ (by norm_num)
      obtain ⟨y, hy, hrange, hnear⟩ := Binary64.div_of_lt hpos
        (Binary64.lt_threshold_of_le (hsmall.trans hone))
      have hleast : (2 : ℚ) ^ (-1075 : ℤ) ≤ 1 :=
        zpow_le_one_of_nonpos₀ one_le_two (by norm_num)
      have hyle : y.magnitude ≤ 2 ^ 65 := by
        rw [Binary64.slack] at hnear
        generalize (2 : ℚ) ^ (-1075 : ℤ) = least at hnear hleast
        linarith
      obtain ⟨z, hz, hzrange⟩ := ih (k - 308) (by omega) hrange hyle
      exact ⟨z, by rw [hy, Option.bind_some, hz], hzrange⟩

lemma bound_lt : bound < 10 ^ 309 := by
  have hnat : 2 ^ 53 * 2 ^ 971 < 10 ^ 309 := by decide +kernel
  have hcast : (2 : ℚ) ^ 53 * 2 ^ 971 < 10 ^ 309 := by exact_mod_cast hnat
  have hpos : (0 : ℚ) < 2 ^ 971 := by positivity
  rw [bound, show (971 : ℤ) = (971 : ℕ) from rfl, zpow_natCast]
  generalize (2 : ℚ) ^ 971 = unit at hcast hpos ⊢
  generalize (10 : ℚ) ^ 309 = power at hcast ⊢
  linarith

lemma exponent_le_of_mul_le {n : ℕ} {k : ℕ} (hn : n ≠ 0) (h : (n : ℚ) * 10 ^ k ≤ bound) :
    k ≤ 308 := by
  by_contra hk
  have hpow : (10 : ℚ) ^ 309 ≤ 10 ^ k := pow_le_pow_right₀ (by norm_num) (by omega)
  have hone : (1 : ℚ) ≤ n := by exact_mod_cast Nat.one_le_iff_ne_zero.2 hn
  have hself : (10 : ℚ) ^ k ≤ n * 10 ^ k := le_mul_of_one_le_left (by positivity) hone
  exact absurd ((hpow.trans hself).trans h) (not_le.2 bound_lt)

/-- A significand and a power of ten can be combined if their product is not too large. -/
lemma exists_combine {n : ℕ} {e : ℤ} (hn : n ≤ Text.maxWord) (h : (n : ℚ) * 10 ^ e ≤ bound) :
    ∃ x, combine n e = some x ∧ x.InRange := by
  obtain ⟨hrange, hmagnitude⟩ := ofNat_le hn
  have hword : (n : ℚ) ≤ 2 ^ 64 := by
    have : n ≤ 2 ^ 64 := hn.trans (by decide)
    exact_mod_cast this
  simp only [combine]
  split_ifs with hneg hzero hlarge
  · exact exists_scaleDown _ hrange (by linarith)
  · exact ⟨_, rfl, hrange⟩
  · obtain ⟨k, rfl⟩ := Int.eq_ofNat_of_zero_le (not_lt.1 hneg)
    have hk : k ≤ 308 := by exact_mod_cast hlarge
    rw [zpow_natCast] at h
    apply Binary64.mul_of_lt
    have hpower := (powerOfTen_le hk).1
    have hpos := (Binary64.powerOfTen k).magnitude_nonneg
    have hlt : bound * (1 + (1 / 2 ^ 53 + 1 / 2 ^ 60)) ^ 2 < Binary64.threshold := by
      have htwo : (2 : ℚ) ^ (971 : ℤ) = 2 * 2 ^ (970 : ℤ) := by
        rw [show (971 : ℤ) = 1 + 970 from rfl, zpow_one_add₀ two_ne_zero]
      have hunit : (0 : ℚ) < 2 ^ (970 : ℤ) := by positivity
      have hhalf : (Binary64.halfRange : ℚ) = 2 ^ 52 := by norm_num [Binary64.halfRange]
      rw [bound, Binary64.threshold, htwo, hhalf]
      generalize (2 : ℚ) ^ (970 : ℤ) = unit at hunit ⊢
      nlinarith
    calc (Binary64.ofNat n).magnitude * (Binary64.powerOfTen k).magnitude
        ≤ n * (1 + (1 / 2 ^ 53 + 1 / 2 ^ 60)) * (10 ^ k * (1 + (1 / 2 ^ 53 + 1 / 2 ^ 60))) := by
          gcongr
      _ = n * 10 ^ k * (1 + (1 / 2 ^ 53 + 1 / 2 ^ 60)) ^ 2 := by ring
      _ ≤ bound * (1 + (1 / 2 ^ 53 + 1 / 2 ^ 60)) ^ 2 := by gcongr
      _ < Binary64.threshold := hlt
  · -- The exponent is in range, as the number is not zero.
    obtain ⟨k, rfl⟩ := Int.eq_ofNat_of_zero_le (not_lt.1 hneg)
    rw [zpow_natCast] at h
    have hne : n ≠ 0 := by
      rintro rfl
      exact hzero rfl
    exact absurd (by exact_mod_cast exponent_le_of_mul_le hne h) hlarge

/-! ### The value of a numeral -/

/-- The digits after the point, if there is one. -/
def fractionDigits (n : Numeral) : List Char := n.fraction.getD []

/-- The value of a numeral without its sign. -/
def value (n : Numeral) : ℚ :=
  Nat.ofDigitChars 10 (n.whole ++ n.fractionDigits) 0
    * 10 ^ (n.exponentValue - n.fractionDigits.length)

/-- A numeral has a binary number if its digits before the point fit in a word and its value is not
too large. -/
theorem exists_magnitude {n : Numeral} (hwhole : Nat.ofDigitChars 10 n.whole 0 ≤ Text.maxWord)
    (h : n.value ≤ bound) : ∃ x, n.magnitude? = some x ∧ x.InRange := by
  obtain ⟨hle, hlength, hword⟩ :=
    accumulate_le (Nat.ofDigitChars 10 n.whole 0) n.fractionDigits
  set read := accumulate (Nat.ofDigitChars 10 n.whole 0) n.fractionDigits with hread
  have heq : n.magnitude? = combine read.1
      (n.exponentValue - n.fractionDigits.length + read.2) := by
    rw [magnitude?, accumulate_eq hwhole]
    change combine read.1 (((0 : ℕ) : ℤ) - (n.fractionDigits.length - read.2 : ℕ)
      + n.exponentValue) = _
    rw [Nat.cast_sub hlength]
    congr 1
    ring
  rw [heq]
  apply exists_combine (hword hwhole)
  rw [value, Nat.ofDigitChars_append] at h
  have hcast : (read.1 : ℚ) * 10 ^ read.2 ≤
      Nat.ofDigitChars 10 n.fractionDigits (Nat.ofDigitChars 10 n.whole 0) := by
    exact_mod_cast hle
  calc (read.1 : ℚ) * 10 ^ (n.exponentValue - n.fractionDigits.length + read.2)
      = read.1 * 10 ^ read.2 * 10 ^ (n.exponentValue - n.fractionDigits.length) := by
        rw [zpow_add₀ (by norm_num), zpow_natCast]
        ring
    _ ≤ Nat.ofDigitChars 10 n.fractionDigits (Nat.ofDigitChars 10 n.whole 0)
          * 10 ^ (n.exponentValue - n.fractionDigits.length) := by gcongr
    _ ≤ bound := h

/-! ### What is written for a binary number -/

lemma exponentValue_of_decimal (negative : Bool) (whole : List Char)
    (fraction : Option (List Char)) (e : ℤ) :
    exponentValue ⟨negative, whole, fraction, some (e < 0, Text.decimal e.natAbs)⟩ = e := by
  by_cases h : e < 0
  · simp only [exponentValue, h, decide_true, Text.ofDigitChars_decimal]
    omega
  · simp only [exponentValue, h, decide_false, Text.ofDigitChars_decimal]
    omega

/-- What is written for a decimal has its value. -/
lemma value_ofDecimal (layout : Binary64.Layout) (negative : Bool) (d : Binary64.Decimal) :
    (ofDecimal layout negative d).value = d.digits * 10 ^ d.exponent := by
  have hten : (10 : ℚ) ≠ 0 := by norm_num
  have hdigits := Text.ofDigitChars_decimal d.digits
  have hlength : 0 < (Text.decimal d.digits).length :=
    List.length_pos_iff.2 (Text.isRun_decimal d.digits).ne_nil
  simp only [ofDecimal]
  split_ifs with hzero hsmall hwhole hpoint hone
  · simp [value, fractionDigits, hzero, Nat.ofDigitChars]
  · have hread : Nat.ofDigitChars 10 (['0'] ++ (List.replicate
        (-((Text.decimal d.digits).length + d.exponent)).toNat '0' ++ Text.decimal d.digits)) 0 =
          d.digits := by
      rw [← List.append_assoc, Nat.ofDigitChars_append, Nat.ofDigitChars_append,
        show Nat.ofDigitChars 10 ['0'] 0 = 0 from rfl, Nat.ofDigitChars_replicate_zero,
        Nat.mul_zero, hdigits]
    simp only [value, fractionDigits, Option.getD_some, hread, exponentValue]
    congr 2
    rw [List.length_append, List.length_replicate]
    omega
  · have hread : Nat.ofDigitChars 10 (Text.decimal d.digits
        ++ List.replicate d.exponent.toNat '0' ++ ['0']) 0 =
          10 * (10 ^ d.exponent.toNat * d.digits) := by
      rw [Nat.ofDigitChars_append, Nat.ofDigitChars_append, hdigits,
        Nat.ofDigitChars_replicate_zero, Nat.ofDigitChars_cons]
      rfl
    obtain ⟨k, hk⟩ := Int.eq_ofNat_of_zero_le hwhole.1
    simp only [value, fractionDigits, Option.getD_some, hread, exponentValue]
    rw [hk]
    simp
    ring
  · simp only [value, fractionDigits, Option.getD_some, List.take_append_drop, hdigits,
      exponentValue]
    congr 2
    rw [List.length_drop]
    omega
  · rw [value, exponentValue_of_decimal]
    simp only [fractionDigits, Option.getD_none, List.append_nil, List.length_nil,
      List.take_of_length_le hone.le, hdigits]
    congr 2
    omega
  · rw [value, exponentValue_of_decimal]
    simp only [fractionDigits, Option.getD_some, List.take_append_drop, hdigits, List.length_drop]
    congr 2
    omega

/-- The digits before the point fit in a word if there are sixteen of them at most. -/
lemma whole_ofDecimal_le (negative : Bool) (d : Binary64.Decimal) :
    Nat.ofDigitChars 10 (ofDecimal numberLayout negative d).whole 0 ≤ Text.maxWord := by
  have hwell := wellFormed_ofDecimal numberLayout negative d
  have hlength : (ofDecimal numberLayout negative d).whole.length ≤ 16 := by
    have hmost : numberLayout.mostPlaces = 16 := rfl
    simp only [ofDecimal]
    split_ifs
    · simp
    · simp
    · rw [List.length_append, List.length_replicate]
      omega
    · rw [List.length_take]
      omega
    · rw [List.length_take]
      omega
    · rw [List.length_take]
      omega
  have hdigit : ∀ c ∈ (ofDecimal numberLayout negative d).whole, c.isDigit = true := by
    rcases hwell.whole with h | h
    · rw [h]
      exact isRun_zero.isDigit
    · exact h.1.isDigit
  calc Nat.ofDigitChars 10 (ofDecimal numberLayout negative d).whole 0
      ≤ 10 ^ (ofDecimal numberLayout negative d).whole.length := (Text.ofDigitChars_lt hdigit).le
    _ ≤ 10 ^ 16 := Nat.pow_le_pow_right (by decide) hlength
    _ ≤ Text.maxWord := by decide

/-! ### Shortest decimals -/

lemma compareScaled_ne_gt {a : ℕ} {k : ℤ} {b : ℕ} {q : ℤ}
    (h : Binary64.compareScaled a k b q ≠ .gt) : (a : ℚ) * 10 ^ k ≤ b * 2 ^ q := by
  have hpow : ∀ (c : ℚ) (n : ℤ), c ≠ 0 → c ^ n * c ^ (-n).toNat = c ^ n.toNat := by
    intro c n hc
    rw [← zpow_natCast, ← zpow_natCast, ← zpow_add₀ hc]
    congr 1
    omega
  have hle : a * 10 ^ k.toNat * 2 ^ (-q).toNat ≤ b * 2 ^ q.toNat * 10 ^ (-k).toNat :=
    Nat.compare_ne_gt.1 h
  have hcast : (a : ℚ) * 10 ^ k.toNat * 2 ^ (-q).toNat ≤ b * 2 ^ q.toNat * 10 ^ (-k).toNat := by
    exact_mod_cast hle
  rw [← hpow 10 k (by norm_num), ← hpow 2 q two_ne_zero] at hcast
  have hpos : (0 : ℚ) < 10 ^ (-k).toNat * 2 ^ (-q).toNat := by positivity
  nlinarith

/-- A decimal that rounds to a number lies half a unit above it at most. -/
lemma le_of_roundsTo {x : Binary64} {digits : ℕ} {k : ℤ} (h : x.roundsTo digits k = true) :
    (digits : ℚ) * 10 ^ k ≤ (x.significand + 1 / 2) * 2 ^ x.exponent := by
  have hgt : Binary64.compareScaled digits k (4 * x.significand + 2) (x.exponent - 2) ≠ .gt := by
    by_cases heven : x.significand % 2 = 0
    · rw [Binary64.roundsTo, if_pos heven, Bool.and_eq_true] at h
      simpa using h.2
    · rw [Binary64.roundsTo, if_neg heven, Bool.and_eq_true] at h
      have hlt := eq_of_beq h.2
      rw [hlt]
      decide
  have hle := compareScaled_ne_gt hgt
  rw [zpow_sub₀ two_ne_zero] at hle
  push_cast at hle
  linarith

lemma onGrid?_roundsTo {x : Binary64} {k : ℤ} {d : Binary64.Decimal}
    (h : x.onGrid? k = some d) : x.roundsTo d.digits d.exponent = true := by
  simp only [Binary64.onGrid?] at h
  split_ifs at h with hnear hbelow hfar hfar
  all_goals cases h
  · exact hnear.2
  · exact hfar.2
  · exact hfar.2

lemma shortest_cases (x : Binary64) :
    x.shortest.digits = 0 ∨ x.roundsTo x.shortest.digits x.shortest.exponent = true := by
  rw [Binary64.shortest]
  split_ifs with hzero
  · exact .inl rfl
  · cases hfind : (List.range 640).findSome? fun (i : ℕ) => x.onGrid? (309 - (i : ℤ)) with
    | none => exact .inl rfl
    | some d =>
      obtain ⟨i, -, hi⟩ := List.exists_of_findSome?_eq_some hfind
      exact .inr (onGrid?_roundsTo hi)

/-- Whether a number is one of the three greatest. -/
def isGreatest (x : Binary64) : Bool :=
  x.exponent = Binary64.greatestExponent && 2 * Binary64.halfRange - 4 < x.significand

lemma shortest_le {x : Binary64} (hx : x.InRange) (h : isGreatest x = false) :
    (x.shortest.digits : ℚ) * 10 ^ x.shortest.exponent ≤ bound := by
  have hpos : (0 : ℚ) < 2 ^ (970 : ℤ) := by positivity
  have htwo : (2 : ℚ) ^ (971 : ℤ) = 2 * 2 ^ (970 : ℤ) := by
    rw [show (971 : ℤ) = 1 + 970 from rfl, zpow_one_add₀ two_ne_zero]
  rcases shortest_cases x with hzero | hrounds
  · rw [hzero, bound]
    norm_num
  · refine (le_of_roundsTo hrounds).trans ?_
    have hlt : (x.significand : ℚ) ≤ 2 ^ 53 - 1 := by
      have : x.significand + 1 ≤ 2 ^ 53 := hx.significand_lt
      have hcast : (x.significand : ℚ) + 1 ≤ 2 ^ 53 := by exact_mod_cast this
      linarith
    rcases lt_or_eq_of_le hx.le_greatest with hexp | hexp
    · have hpow : (2 : ℚ) ^ x.exponent ≤ 2 ^ (970 : ℤ) :=
        zpow_le_zpow_right₀ one_le_two (Int.le_of_lt_add_one hexp)
      rw [bound, htwo]
      calc ((x.significand : ℚ) + 1 / 2) * 2 ^ x.exponent
          ≤ (2 ^ 53 - 1 + 1 / 2) * 2 ^ (970 : ℤ) :=
            mul_le_mul (by linarith only [hlt]) hpow (zpow_nonneg zero_le_two _) (by norm_num)
        _ ≤ (2 ^ 53 - 7 / 2) * (2 * 2 ^ (970 : ℤ)) := by
          generalize (2 : ℚ) ^ (970 : ℤ) = unit at hpos ⊢
          nlinarith
    · have hle : (x.significand : ℚ) ≤ 2 ^ 53 - 4 := by
        have hnat : x.significand + 4 ≤ 2 ^ 53 := by
          simp only [isGreatest, hexp, decide_true, Bool.true_and, decide_eq_false_iff_not,
            not_lt] at h
          exact Nat.add_le_of_le_sub (by decide) h
        have hcast : (x.significand : ℚ) + 4 ≤ 2 ^ 53 := by exact_mod_cast hnat
        linarith
      rw [hexp, bound]
      exact mul_le_mul_of_nonneg_right (by linarith) (zpow_nonneg (by norm_num) _)

/-- The three greatest numbers are read back, the middle one as the greatest. -/
lemma exists_magnitude_of_isGreatest {x : Binary64} (hx : x.InRange) (h : isGreatest x = true) :
    ∃ y, (ofDecimal numberLayout x.negative x.shortest).magnitude? = some y ∧ y.InRange := by
  obtain ⟨negative, significand, exponent⟩ := x
  simp only [isGreatest, Bool.and_eq_true, decide_eq_true_eq] at h
  obtain ⟨rfl, hlo⟩ := h
  have hlt : significand < 9007199254740992 := hx.significand_lt
  have hlo : 9007199254740988 < significand := hlo
  obtain rfl | rfl | rfl : significand = 9007199254740989 ∨ significand = 9007199254740990 ∨
      significand = 9007199254740991 := by omega
  · refine ⟨⟨false, 9007199254740989, 971⟩, ?_, by decide⟩
    cases negative <;> decide +kernel
  · refine ⟨⟨false, 9007199254740991, 971⟩, ?_, by decide⟩
    cases negative <;> decide +kernel
  · refine ⟨⟨false, 9007199254740991, 971⟩, ?_, by decide⟩
    cases negative <;> decide +kernel

/-- What is written for a binary number is read as one. -/
theorem exists_number {x : Binary64} (hx : x.InRange) :
    ∃ y, (ofDecimal numberLayout x.negative x.shortest).number? = some (.float y) ∧
      y.InRange := by
  obtain ⟨y, hy, hrange⟩ : ∃ y,
      (ofDecimal numberLayout x.negative x.shortest).magnitude? = some y ∧ y.InRange := by
    rcases Bool.eq_false_or_eq_true (isGreatest x) with h | h
    · exact exists_magnitude_of_isGreatest hx h
    · refine exists_magnitude (whole_ofDecimal_le _ _) ?_
      rw [value_ofDecimal]
      exact shortest_le hx h
  have hpoint : ¬ ((ofDecimal numberLayout x.negative x.shortest).fraction = none ∧
      (ofDecimal numberLayout x.negative x.shortest).exponent = none) := by
    simp only [ofDecimal]
    split_ifs <;> simp
  refine ⟨y.withSign x.negative, ?_, Binary64.withSign_inRange hrange _⟩
  rw [number?]
  simp only [hy, ofDecimal_negative, Option.map_some]
  rw [if_neg fun h => hpoint ⟨h.1, h.2.1⟩]

end Tenancy.Json.Numeral
