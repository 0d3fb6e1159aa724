import Mathlib.Algebra.Group.Nat.Defs
import Mathlib.Tactic.Common
import Tenancy.Text.Decimal

/-!
# Decimal digits

What is written for a natural number is a run of digits that does not start with a zero, unless it
is zero alone, and that has the value of the number.
-/

namespace Tenancy.Text

/-- One or more decimal digits. -/
structure IsRun (cs : List Char) : Prop where
  ne_nil : cs ≠ []
  isDigit : ∀ c ∈ cs, c.isDigit = true

lemma IsRun.eq_cons {cs : List Char} (h : IsRun cs) :
    ∃ c rest, cs = c :: rest ∧ c.isDigit = true := by
  obtain ⟨c, rest, hcs⟩ := List.exists_cons_of_ne_nil h.ne_nil
  exact ⟨c, rest, hcs, h.isDigit c (by simp [hcs])⟩

lemma isRun_decimal (n : Nat) : IsRun (decimal n) :=
  ⟨Nat.toDigits_ne_nil, fun _ h => Nat.isDigit_of_mem_toDigits (by decide) (by decide) h⟩

lemma not_mem_decimal {d : Char} (h : d.isDigit = false) (n : Nat) : d ∉ decimal n := by
  intro hmem
  have hdigit := (isRun_decimal n).isDigit d hmem
  rw [h] at hdigit
  cases hdigit

lemma not_mem_padded {d : Char} (h : d.isDigit = false) (width n : Nat) : d ∉ padded width n := by
  intro hmem
  rcases List.mem_append.1 hmem with hmem | hmem
  · obtain rfl := List.eq_of_mem_replicate hmem
    cases h
  · exact not_mem_decimal h n hmem

lemma decimal_zero : decimal 0 = ['0'] := Nat.toDigits_zero 10

@[simp] lemma ofDigitChars_decimal (n : Nat) : Nat.ofDigitChars 10 (decimal n) 0 = n :=
  Nat.ofDigitChars_ten_toDigits

lemma head?_decimal {n : Nat} (h : n ≠ 0) : (decimal n).head? ≠ some '0' := by
  induction n using Nat.strongRecOn with
  | ind n ih =>
    rcases Nat.lt_or_ge n 10 with hlt | hge
    · rw [decimal, Nat.toDigits_of_lt_base hlt]
      simpa [Nat.digitChar_eq_zero] using h
    · have hdiv : n / 10 ≠ 0 := by omega
      have hhead := ih (n / 10) (by omega) hdiv
      obtain ⟨c, cs, hcs⟩ := List.exists_cons_of_ne_nil (isRun_decimal (n / 10)).ne_nil
      rw [hcs] at hhead
      rw [decimal, Nat.toDigits_of_base_le (by decide) hge, ← decimal, hcs]
      exact hhead

lemma signed_eq (n : Int) :
    signed n = (if n < 0 then ['-'] else []) ++ decimal n.natAbs := by
  cases n with
  | ofNat n => simp [signed]
  | negSucc n => simp [signed, Int.negSucc_lt_zero]

/-! ### Values of digits -/

lemma IsRun.append {cs ds : List Char} (hc : IsRun cs) (hd : ∀ c ∈ ds, c.isDigit = true) :
    IsRun (cs ++ ds) := by
  refine ⟨by simp [hc.ne_nil], ?_⟩
  intro c h
  rcases List.mem_append.1 h with h | h
  · exact hc.isDigit c h
  · exact hd c h

lemma le_ofDigitChars (cs : List Char) (init : Nat) :
    init * 10 ^ cs.length ≤ Nat.ofDigitChars 10 cs init := by
  rw [Nat.ofDigitChars_eq_ofDigitChars_zero, Nat.mul_comm]
  exact Nat.le_add_right _ _

/-- So many digits are less than that power of ten. -/
lemma ofDigitChars_lt {cs : List Char} (h : ∀ c ∈ cs, c.isDigit = true) :
    Nat.ofDigitChars 10 cs 0 < 10 ^ cs.length := by
  induction cs with
  | nil => exact Nat.one_pos
  | cons c rest ih =>
    have hrest := ih fun c' hc' => h c' (List.mem_cons_of_mem _ hc')
    have hc := (Char.isDigit_iff_toNat.1 (h c List.mem_cons_self)).2
    have hdigit : c.toNat - '0'.toNat ≤ 9 := Nat.sub_le_iff_le_add.2 hc
    rw [Nat.ofDigitChars_cons, Nat.ofDigitChars_eq_ofDigitChars_zero, List.length_cons,
      Nat.pow_succ, Nat.mul_zero, Nat.zero_add]
    calc 10 ^ rest.length * (c.toNat - '0'.toNat) + Nat.ofDigitChars 10 rest 0
        < 10 ^ rest.length * 9 + 10 ^ rest.length :=
          Nat.add_lt_add_of_le_of_lt (Nat.mul_le_mul_left _ hdigit) hrest
      _ = 10 ^ rest.length * 10 := by omega

end Tenancy.Text
