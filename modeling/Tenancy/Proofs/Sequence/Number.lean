import Tenancy.Proofs.Text.Decimal
import Tenancy.Sequence.Basic

/-!
# Texts of numbers

A number is written as prefix, period and counter with hyphens between them, and a hyphen is also
the sign of a year before the year zero. What stands behind the prefix still splits at its hyphens
into parts that say what they are, `toList_number`: an empty part is a sign, and the last part is
the counter, however wide it is. `number_inj`: under one prefix the text says whether and how the
sequence starts over, which period it is, and the value of the counter.
-/

namespace Tenancy

/-! ### Digits -/

namespace Text

variable {width width' n n' : Nat}

@[simp] lemma ofDigitChars_padded (width n : Nat) : Nat.ofDigitChars 10 (padded width n) 0 = n := by
  rw [padded, Nat.ofDigitChars_append, Nat.ofDigitChars_replicate_zero, Nat.mul_zero,
    ofDigitChars_decimal]

/-- Leading zeros do not change the number. -/
lemma eq_of_padded_eq (h : padded width n = padded width' n') : n = n' := by
  rw [← ofDigitChars_padded width n, h, ofDigitChars_padded]

lemma padded_ne_nil (width n : Nat) : padded width n ≠ [] :=
  List.append_ne_nil_of_right_ne_nil _ (isRun_decimal n).ne_nil

lemma hyphen_notMem_padded (width n : Nat) : '-' ∉ padded width n := not_mem_padded rfl width n

end Text

/-! ### Periods -/

namespace Reset

variable {r r' : Reset} {date date' : Date} {year year' : Int}

/-- The parts between the hyphens of a year: its digits, after an empty part if there is a sign. -/
def yearFields : Int → List (List Char)
  | .ofNat n => [Text.padded 4 n]
  | .negSucc n => [[], Text.padded 3 (n + 1)]

/-- The parts between the hyphens of a period. -/
def fields (r : Reset) (date : Date) : List (List Char) :=
  match r with
  | .never => []
  | .yearly => yearFields date.year
  | .monthly => yearFields date.year ++ [Text.padded 2 date.month]

/-- A year can be told from what follows it. -/
lemma yearFields_append_inj {rest rest' : List (List Char)}
    (h : yearFields year ++ rest = yearFields year' ++ rest') : year = year' ∧ rest = rest' := by
  cases year with
  | ofNat n =>
    cases year' with
    | ofNat n' =>
      obtain ⟨hyear, hrest⟩ := List.cons_eq_cons.1 h
      exact ⟨congrArg Int.ofNat (Text.eq_of_padded_eq hyear), hrest⟩
    | negSucc n' => exact absurd (List.cons_eq_cons.1 h).1 (Text.padded_ne_nil 4 n)
  | negSucc n =>
    cases year' with
    | ofNat n' => exact absurd (List.cons_eq_cons.1 h).1.symm (Text.padded_ne_nil 4 n')
    | negSucc n' =>
      obtain ⟨hyear, hrest⟩ := List.cons_eq_cons.1 (List.cons_eq_cons.1 h).2
      have hn := Nat.succ.inj (Text.eq_of_padded_eq hyear)
      exact ⟨congrArg Int.negSucc hn, hrest⟩

lemma yearFields_ne_nil (year : Int) : yearFields year ≠ [] := by
  cases year <;> exact List.cons_ne_nil _ _

/-- What a period says: how the sequence starts over, the year, and the month if it counts. -/
def SamePeriod (r : Reset) (date : Date) (r' : Reset) (date' : Date) : Prop :=
  r = r' ∧ (r ≠ .never → date.year = date'.year) ∧ (r = .monthly → date.month = date'.month)

lemma SamePeriod.period?_eq (h : SamePeriod r date r' date') :
    r.period? date = r'.period? date' := by
  obtain ⟨rfl, hyear, hmonth⟩ := h
  cases r with
  | never => rfl
  | yearly => simp only [period?, hyear (by decide)]
  | monthly => simp only [period?, hyear (by decide), hmonth rfl]

lemma samePeriod_of_fields_eq (h : r.fields date = r'.fields date') :
    SamePeriod r date r' date' := by
  cases r with
  | never =>
    cases r' with
    | never => exact ⟨rfl, fun h => absurd rfl h, nofun⟩
    | yearly => exact absurd h.symm (yearFields_ne_nil _)
    | monthly => exact absurd h.symm (List.append_ne_nil_of_left_ne_nil (yearFields_ne_nil _) _)
  | yearly =>
    cases r' with
    | never => exact absurd h (yearFields_ne_nil _)
    | yearly =>
      obtain ⟨hyear, -⟩ := yearFields_append_inj (congrArg (· ++ []) h)
      exact ⟨rfl, fun _ => hyear, nofun⟩
    | monthly =>
      obtain ⟨-, hrest⟩ := yearFields_append_inj ((List.append_nil _).trans h)
      cases hrest
  | monthly =>
    cases r' with
    | never => exact absurd h (List.append_ne_nil_of_left_ne_nil (yearFields_ne_nil _) _)
    | yearly =>
      obtain ⟨-, hrest⟩ := yearFields_append_inj (h.trans (List.append_nil _).symm)
      cases hrest
    | monthly =>
      obtain ⟨hyear, hmonth⟩ := yearFields_append_inj h
      exact ⟨rfl, fun _ => hyear, fun _ => Text.eq_of_padded_eq (List.cons_eq_cons.1 hmonth).1⟩

lemma hyphen_notMem_fields {field : List Char} (h : field ∈ r.fields date) : '-' ∉ field := by
  have hyear : ∀ field ∈ yearFields date.year, '-' ∉ field := by
    intro field h
    cases hy : date.year with
    | ofNat n =>
      rw [hy] at h
      rw [List.mem_singleton.1 h]
      exact Text.hyphen_notMem_padded _ _
    | negSucc n =>
      rw [hy] at h
      simp only [yearFields, List.mem_cons, List.not_mem_nil, or_false] at h
      rcases h with rfl | rfl
      · exact List.not_mem_nil
      · exact Text.hyphen_notMem_padded _ _
  cases r with
  | never => cases h
  | yearly => exact hyear field h
  | monthly =>
    rcases List.mem_append.1 h with h | h
    · exact hyear field h
    · rw [List.mem_singleton.1 h]
      exact Text.hyphen_notMem_padded _ _

end Reset

/-! ### Numbers -/

namespace Sequence

variable {s s' : Sequence} {date date' : Date} {value value' : Nat}

/-- Behind the prefix there are the parts of the period and the counter, with hyphens between
them. -/
lemma toList_number (label : String) (r : Reset) (date : Date) (value padding : Nat) :
    (number label (r.period? date) value padding).toList =
      label.toList ++ '-' :: ['-'].intercalate (r.fields date ++ [Text.padded padding value]) := by
  cases r with
  | never => simp [number, Reset.period?, Reset.fields]
  | yearly =>
    cases hy : date.year <;>
      simp [number, Reset.period?, Reset.fields, Reset.yearFields, Text.signedPadded, hy]
  | monthly =>
    cases hy : date.year <;>
      simp [number, Reset.period?, Reset.fields, Reset.yearFields, Text.signedPadded, hy]

/-- Under one prefix the text of a number says which period it belongs to, and which number it is,
whatever its width. -/
theorem format_inj (hlabel : s.label = s'.label)
    (h : s.format (s.reset.period? date) value = s'.format (s'.reset.period? date') value') :
    Reset.SamePeriod s.reset date s'.reset date' ∧ value = value' := by
  have hfields : ∀ (s : Sequence) (date : Date) (value : Nat),
      (['-'].intercalate (s.reset.fields date ++ [Text.padded s.padding value])).splitOn '-' =
        s.reset.fields date ++ [Text.padded s.padding value] := by
    intro s date value
    refine List.splitOn_intercalate '-' (fun field hfield => ?_) (by simp)
    rcases List.mem_append.1 hfield with hfield | hfield
    · exact Reset.hyphen_notMem_fields hfield
    · rw [List.mem_singleton.1 hfield]
      exact Text.hyphen_notMem_padded _ _
  have h := congrArg String.toList h
  rw [format, format, hlabel, toList_number, toList_number] at h
  have hsplit := congrArg (List.splitOn '-') (List.cons_eq_cons.1 (List.append_cancel_left h)).2
  rw [hfields, hfields] at hsplit
  obtain ⟨hperiod, hvalue⟩ := List.append_inj' hsplit rfl
  exact ⟨Reset.samePeriod_of_fields_eq hperiod,
    Text.eq_of_padded_eq (List.cons_eq_cons.1 hvalue).1⟩

end Sequence

end Tenancy
