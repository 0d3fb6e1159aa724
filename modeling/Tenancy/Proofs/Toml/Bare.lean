import Mathlib.Data.List.TakeWhile
import Tenancy.Proofs.Text.Decimal
import Tenancy.Toml.Bare

/-!
# Reading the numbers that were written

The decimal digits of a natural number up to the greatest integer are read as that integer:
`read?_decimal`. A run of digits is no date, no time and no fractional number, since each of those
has some other character in it.
-/

namespace Tenancy.Toml

section Runs

variable {p : Char → Bool} {cs rest : List Char}

/-- A run of characters is taken up to the first one of another kind. -/
lemma takeWhile_append_of_head (hrun : ∀ c ∈ cs, p c = true)
    (hrest : ∀ c, rest.head? = some c → p c = false) : (cs ++ rest).takeWhile p = cs := by
  rw [List.takeWhile_append_of_pos hrun]
  cases rest with
  | nil => simp
  | cons c rest => simp [hrest c rfl]

lemma dropWhile_append_of_head (hrun : ∀ c ∈ cs, p c = true)
    (hrest : ∀ c, rest.head? = some c → p c = false) : (cs ++ rest).dropWhile p = rest := by
  rw [List.dropWhile_append_of_pos hrun]
  cases rest with
  | nil => simp
  | cons c rest => simp [hrest c rfl]

end Runs

namespace Bare

open Text (IsRun decimal)

variable {cs : List Char}

lemma not_mem_of_isDigit {d : Char} (h : ∀ c ∈ cs, c.isDigit = true) (hd : d.isDigit = false) :
    d ∉ cs := by
  intro hmem
  rw [h d hmem] at hd
  cases hd

/-! ### Points in time -/

lemma isDate_of_isDigit (h : ∀ c ∈ cs, c.isDigit = true) : isDate cs = false := by
  unfold isDate
  split
  · exact absurd (by simp) (not_mem_of_isDigit (d := '-') h rfl)
  · rfl

lemma isTime_of_isDigit (h : ∀ c ∈ cs, c.isDigit = true) (rest : List Char → Bool) :
    isTime rest cs = false := by
  unfold isTime
  split
  · exact absurd (by simp) (not_mem_of_isDigit (d := ':') h rfl)
  · rfl

lemma isDatetime_of_isDigit (h : ∀ c ∈ cs, c.isDigit = true) : isDatetime cs = false := by
  have htake : isDate (cs.take 10) = false :=
    isDate_of_isDigit fun c hc => h c (List.mem_of_mem_take hc)
  simp [isDatetime, isDate_of_isDigit h, isTime_of_isDigit h, htake]

/-! ### Fractional numbers -/

lemma sign_of_isDigit (h : ∀ c ∈ cs, c.isDigit = true) : sign cs = (false, cs) := by
  unfold sign
  split
  · exact absurd (by simp) (not_mem_of_isDigit (d := '-') h rfl)
  · exact absurd (by simp) (not_mem_of_isDigit (d := '+') h rfl)
  · rfl

lemma splitAt_of_forall {p : Char → Bool} (h : ∀ c ∈ cs, p c = false) :
    splitAt p cs = (cs, none) := by
  have hdrop : cs.dropWhile (!p ·) = [] := List.dropWhile_eq_nil_iff.2 (by simpa using h)
  simp [splitAt, hdrop]

/-- Digits alone have neither a fraction nor an exponent. -/
lemma isDecimalFloat_of_isDigit (h : ∀ c ∈ cs, c.isDigit = true) : isDecimalFloat cs = false := by
  have hexponent : splitAt (fun c => c = 'e' || c = 'E') cs = (cs, none) := by
    refine splitAt_of_forall fun c hc => ?_
    have he : c ≠ 'e' := fun he => not_mem_of_isDigit h rfl (he ▸ hc)
    have hE : c ≠ 'E' := fun hE => not_mem_of_isDigit h rfl (hE ▸ hc)
    simp [he, hE]
  have hfraction : splitAt (· = '.') cs = (cs, none) := by
    refine splitAt_of_forall fun c hc => ?_
    have hpoint : c ≠ '.' := fun hpoint => not_mem_of_isDigit h rfl (hpoint ▸ hc)
    simp [hpoint]
  simp only [isDecimalFloat, sign_of_isDigit h, hexponent, hfraction]
  split <;> simp

lemma isFloat_of_isDigit (h : ∀ c ∈ cs, c.isDigit = true) : isFloat cs = false := by
  have hn : 'n' ∉ cs := not_mem_of_isDigit h rfl
  have hinf : cs ≠ ['i', 'n', 'f'] := by
    rintro rfl
    simp at hn
  have hnan : cs ≠ ['n', 'a', 'n'] := by
    rintro rfl
    simp at hn
  simp [isFloat, sign_of_isDigit h, hinf, hnan, isDecimalFloat_of_isDigit h]

/-! ### Integers -/

lemma digits?_of_isRun (h : IsRun cs) : digits? Char.isDigit cs = some cs := by
  obtain ⟨hne, hdigit⟩ := h
  induction cs with
  | nil => exact absurd rfl hne
  | cons c rest ih =>
    have hc := hdigit c List.mem_cons_self
    have hrest : ∀ d ∈ rest, d.isDigit = true := fun d hd => hdigit d (List.mem_cons_of_mem _ hd)
    by_cases hnil : rest = []
    · subst hnil
      rw [digits?, if_pos hc]
    · have hunderscore : ∀ more, rest ≠ '_' :: more := by
        rintro more rfl
        exact absurd List.mem_cons_self (not_mem_of_isDigit hrest rfl)
      rw [digits?.eq_4 _ _ _ hnil hunderscore, if_pos hc, ih hnil hrest, Option.map_some]

/-- The digits of a number are those of an integer in base ten. -/
lemma integer?_decimal {n : Nat} (h : (n : Int) ≤ greatestInteger) :
    integer? (decimal n) = some (n : Int) := by
  have hrun := Text.isRun_decimal n
  have hzero : decimal n = ['0'] ∨ (decimal n).head? ≠ some '0' := by
    by_cases hn : n = 0
    · subst hn
      exact .inl Text.decimal_zero
    · exact .inr (Text.head?_decimal hn)
  have hwhole : whole? (decimal n) = some (decimal n) := by
    rw [whole?, digits?_of_isRun hrun, Option.filter_some, if_pos (by simpa using hzero)]
  have hleast : leastInteger ≤ (n : Int) := by
    have : leastInteger ≤ 0 := by decide
    omega
  -- A base other than ten is named by a letter.
  have hbase : ∀ letter : Char, letter.isDigit = false →
      ∀ more, decimal n ≠ '0' :: letter :: more := by
    intro letter hletter more heq
    exact not_mem_of_isDigit hrun.isDigit hletter (by rw [heq]; simp)
  rw [integer?.eq_4 _ (hbase 'x' rfl) (hbase 'o' rfl) (hbase 'b' rfl)]
  simp [sign_of_isDigit hrun.isDigit, hwhole, hleast, h]

/-! ### Values -/

lemma isBare_of_isDigit {c : Char} (h : c.isDigit = true) : isBare c = true := by
  simp [isBare, Char.isAlphanum, h]

lemma value?_decimal {n : Nat} (h : (n : Int) ≤ greatestInteger) :
    value? (decimal n) = some (.integer n) := by
  have hdigit := (Text.isRun_decimal n).isDigit
  have htrue : decimal n ≠ ['t', 'r', 'u', 'e'] := by
    intro heq
    exact not_mem_of_isDigit (d := 'e') hdigit rfl (by rw [heq]; simp)
  have hfalse : decimal n ≠ ['f', 'a', 'l', 's', 'e'] := by
    intro heq
    exact not_mem_of_isDigit (d := 'e') hdigit rfl (by rw [heq]; simp)
  rw [value?, if_neg htrue, if_neg hfalse, if_neg (by simp [isDatetime_of_isDigit hdigit]),
    if_neg (by simp [isFloat_of_isDigit hdigit]), integer?_decimal h, Option.map_some]

/-- A number that was written is read back, with what follows it left over. -/
theorem read?_decimal {n : Nat} (h : (n : Int) ≤ greatestInteger) {rest : List Char}
    (hrest : ∀ c, rest.head? = some c → isBare c = false) :
    read? (decimal n ++ rest) = some (.integer n, rest) := by
  have hdigit := (Text.isRun_decimal n).isDigit
  have hbare : ∀ c ∈ decimal n, isBare c = true := fun c hc => isBare_of_isDigit (hdigit c hc)
  simp only [read?, takeWhile_append_of_head hbare hrest, dropWhile_append_of_head hbare hrest,
    isDate_of_isDigit hdigit, value?_decimal h, Option.map_some]

end Bare

end Tenancy.Toml
