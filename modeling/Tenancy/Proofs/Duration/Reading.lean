import Mathlib.Data.List.Basic
import Mathlib.Data.List.TakeWhile
import Tenancy.Duration
import Tenancy.Proofs.Text.Decimal

/-!
# Spellings of durations

Settings spell a duration as a number and a unit. `Spells` says which texts these are, and
`reading_exact` that exactly they are read, as that many of the unit; all other texts are refused.
The number is bounded, the seconds of so many minutes or hours are not.
-/

namespace Tenancy

namespace Text

variable {limit n : ℕ} {cs lead core trail : List Char}

/-! ### White space at the ends -/

lemma dropWhile_isBlank_append (hlead : ∀ c ∈ lead, isBlank c = true)
    (hcore : ∀ c ∈ core.head?, isBlank c = false) :
    (lead ++ core).dropWhile isBlank = core := by
  rw [List.dropWhile_append_of_pos hlead]
  cases core with
  | nil => rfl
  | cons c rest => exact List.dropWhile_cons_of_neg (by simp [hcore c rfl])

/-- White space around a text that has none is trimmed off. -/
lemma trim_append (hlead : ∀ c ∈ lead, isBlank c = true) (hcore : ∀ c ∈ core, isBlank c = false)
    (hne : core ≠ []) (htrail : ∀ c ∈ trail, isBlank c = true) :
    trim (lead ++ core ++ trail) = core := by
  have hhead : ∀ c ∈ (core ++ trail).head?, isBlank c = false := by
    obtain ⟨c, rest, rfl⟩ := List.exists_cons_of_ne_nil hne
    simpa using hcore c List.mem_cons_self
  have hlast : ∀ c ∈ core.reverse.head?, isBlank c = false := fun c hc =>
    hcore c (List.mem_reverse.1 (List.mem_of_mem_head? hc))
  have hblank : ∀ c ∈ trail.reverse, isBlank c = true := fun c hc =>
    htrail c (List.mem_reverse.1 hc)
  rw [trim, List.append_assoc, dropWhile_isBlank_append hlead hhead, List.reverse_append,
    dropWhile_isBlank_append hblank hlast, List.reverse_reverse]

/-- Every text is its trimmed form with white space at the two ends. -/
lemma exists_append_trim (cs : List Char) :
    ∃ lead trail, cs = lead ++ trim cs ++ trail ∧ (∀ c ∈ lead, isBlank c = true) ∧
      ∀ c ∈ trail, isBlank c = true := by
  let rest := cs.dropWhile isBlank
  refine ⟨cs.takeWhile isBlank, (rest.reverse.takeWhile isBlank).reverse, ?_,
    fun c hc => List.mem_takeWhile_imp hc, fun c hc =>
      List.mem_takeWhile_imp (List.mem_reverse.1 hc)⟩
  have hrest : trim cs ++ (rest.reverse.takeWhile isBlank).reverse = rest := by
    rw [trim, ← List.reverse_append, List.takeWhile_append_dropWhile, List.reverse_reverse]
  rw [List.append_assoc, hrest, List.takeWhile_append_dropWhile]

/-! ### Numbers -/

lemma digits?_eq_some_iff :
    digits? cs = some n ↔ IsRun cs ∧ Nat.ofDigitChars 10 cs 0 = n := by
  rw [digits?]
  split_ifs with h
  · have hrun : IsRun cs := ⟨h.1, List.all_eq_true.1 h.2⟩
    simp [hrun]
  · have hrun : ¬ IsRun cs := fun hrun => h ⟨hrun.ne_nil, List.all_eq_true.2 hrun.isDigit⟩
    simp [hrun]

/-- A number is read from its digits, with a plus sign before them or without. -/
lemma natural?_eq_some_iff :
    natural? limit cs = some n ↔
      ∃ sign digits, cs = sign ++ digits ∧ (sign = [] ∨ sign = ['+']) ∧ IsRun digits ∧
        Nat.ofDigitChars 10 digits 0 = n ∧ n ≤ limit := by
  simp only [natural?, Option.filter_eq_some_iff, digits?_eq_some_iff, decide_eq_true_eq]
  constructor
  · intro h
    split at h
    next rest => exact ⟨['+'], rest, rfl, .inr rfl, h.1.1, h.1.2, h.2⟩
    next => exact ⟨[], cs, rfl, .inl rfl, h.1.1, h.1.2, h.2⟩
  · rintro ⟨sign, digits, rfl, rfl | rfl, hrun, hn, hle⟩
    · obtain ⟨c, rest, rfl, hc⟩ := hrun.eq_cons
      have hplus : c ≠ '+' := by
        rintro rfl
        cases hc
      rw [List.nil_append]
      split
      next heq => exact absurd (List.cons_eq_cons.1 heq).1 hplus
      next => exact ⟨⟨hrun, hn⟩, hle⟩
    · exact ⟨⟨hrun, hn⟩, hle⟩

/-- Letters, digits and the plus sign are no white space. -/
lemma isBlank_of_ascii {c : Char} (hlow : 32 < c.toNat) (hhigh : c.toNat < 128) :
    isBlank c = false := by
  have hranges : ∀ r ∈ blankRanges, r.2 ≤ 32 ∨ 128 ≤ r.1 := by decide
  rw [isBlank, List.any_eq_false]
  intro r hr
  have hr := hranges r hr
  simp only [Bool.and_eq_true, decide_eq_true_eq]
  omega

end Text

namespace Duration

/-! ### Units -/

/-- The spellings of a unit. A number without a unit is one of seconds. -/
def Scale.spellings : Scale → List (List Char)
  | .milli => [['m', 's']]
  | .second => [['s'], []]
  | .minute => [['m']]
  | .hour => [['h']]

/-- The nanoseconds of one of a unit. -/
def Scale.nanos : Scale → ℕ
  | .milli => 1000000
  | .second => 1000000000
  | .minute => 60 * 1000000000
  | .hour => 3600 * 1000000000

lemma Scale.times_eq (unit : Scale) (n : ℕ) : unit.times n = ⟨n * unit.nanos⟩ := by
  cases unit with
  | milli | second => rfl
  | minute | hour => simp only [times, nanos, ofSeconds, Nat.mul_assoc]

/-- A text spells so many of a unit: white space, a plus sign or none, the number in decimal
digits, which is one of 64 bits, the unit right behind it, and white space. -/
structure Spells (s : String) (n : ℕ) (unit : Scale) : Prop where
  fits : n ≤ Text.maxWord
  parts : ∃ lead sign digits spelling trail : List Char,
    s.toList = lead ++ (sign ++ digits ++ spelling) ++ trail ∧
    (∀ c ∈ lead, Text.isBlank c = true) ∧ (sign = [] ∨ sign = ['+']) ∧
    (digits ≠ [] ∧ ∀ c ∈ digits, c.isDigit = true) ∧ Nat.ofDigitChars 10 digits 0 = n ∧
    spelling ∈ unit.spellings ∧ ∀ c ∈ trail, Text.isBlank c = true

variable {cs number spelling : List Char} {unit : Scale}

/-- What is split off is a spelling of the unit. -/
lemma exists_of_splitUnit (h : splitUnit cs = (number, unit)) :
    ∃ spelling ∈ unit.spellings, cs = number ++ spelling := by
  unfold splitUnit at h
  split at h
  all_goals
    cases h
  next rest hcs =>
    exact ⟨['m', 's'], List.mem_singleton_self _, by simpa using congrArg List.reverse hcs⟩
  next rest _ hcs => exact ⟨['s'], List.mem_cons_self, by simpa using congrArg List.reverse hcs⟩
  next rest hcs =>
    exact ⟨['m'], List.mem_singleton_self _, by simpa using congrArg List.reverse hcs⟩
  next rest hcs =>
    exact ⟨['h'], List.mem_singleton_self _, by simpa using congrArg List.reverse hcs⟩
  next => exact ⟨[], by simp [Scale.spellings], (List.append_nil _).symm⟩

/-- The unit is split off a number whatever its spelling, as a number ends in a digit. -/
lemma splitUnit_append {c : Char} (hc : c.isDigit = true) (hlast : number.getLast? = some c)
    (hspelling : spelling ∈ unit.spellings) :
    splitUnit (number ++ spelling) = (number, unit) := by
  obtain ⟨front, rfl⟩ := List.getLast?_eq_some_iff.1 hlast
  have hletter : ∀ d : Char, d.isDigit = false → c ≠ d := by
    rintro d hd rfl
    rw [hc] at hd
    cases hd
  cases unit with
  | milli | minute | hour =>
    obtain rfl := List.mem_singleton.1 hspelling
    simp [splitUnit]
  | second =>
    have hs := hletter 's' rfl
    have hm := hletter 'm' rfl
    have hh := hletter 'h' rfl
    rcases List.mem_pair.1 hspelling with rfl | rfl
    · simp [splitUnit, hm]
    · simp [splitUnit, hs, hm, hh]

/-! ### Reading -/

variable {s : String} {n : ℕ}

/-- There is no white space between the sign and the end of the unit. -/
lemma isBlank_of_mem_spelled {sign digits : List Char} (hsign : sign = [] ∨ sign = ['+'])
    (hdigits : Text.IsRun digits) (hspelling : spelling ∈ unit.spellings) {c : Char}
    (hc : c ∈ sign ++ digits ++ spelling) : Text.isBlank c = false := by
  rcases List.mem_append.1 hc with hc | hc
  · rcases List.mem_append.1 hc with hc | hc
    · rcases hsign with rfl | rfl
      · cases hc
      · rw [List.mem_singleton.1 hc]
        rfl
    · have hdigit := Char.isDigit_iff_toNat.1 (hdigits.isDigit c hc)
      have hzero : '0'.toNat = 48 := rfl
      have hnine : '9'.toNat = 57 := rfl
      exact Text.isBlank_of_ascii (by omega) (by omega)
  · have hletters : ∀ u : Scale, ∀ spelling ∈ u.spellings, ∀ c ∈ spelling,
        c = 'm' ∨ c = 's' ∨ c = 'h' := by
      intro u
      cases u <;> simp [Scale.spellings]
    rcases hletters unit spelling hspelling c hc with rfl | rfl | rfl <;> rfl

/-- The parts of a spelling are those that a text is split into. -/
lemma spells_iff : Spells s n unit ↔ ∃ number,
    splitUnit (Text.trim s.toList) = (number, unit) ∧
      Text.natural? Text.maxWord number = some n := by
  constructor
  · intro h
    obtain ⟨lead, sign, digits, spelling, trail, hs, hlead, hsign, hdigits, hn, hspelling,
      htrail⟩ := h.parts
    have hrun : Text.IsRun digits := ⟨hdigits.1, hdigits.2⟩
    have hne : sign ++ digits ++ spelling ≠ [] := by simp [hrun.ne_nil]
    have htrim : Text.trim s.toList = sign ++ digits ++ spelling := by
      rw [hs, Text.trim_append hlead
        (fun c hc => isBlank_of_mem_spelled hsign hrun hspelling hc) hne htrail]
    have hlast : (sign ++ digits).getLast? = some (digits.getLast hrun.ne_nil) := by
      rw [List.getLast?_append, List.getLast?_eq_some_getLast hrun.ne_nil, Option.some_or]
    have hsplit := splitUnit_append (hrun.isDigit _ (List.getLast_mem hrun.ne_nil)) hlast hspelling
    exact ⟨sign ++ digits, htrim ▸ hsplit,
      Text.natural?_eq_some_iff.2 ⟨sign, digits, rfl, hsign, hrun, hn, h.fits⟩⟩
  · rintro ⟨number, hsplit, hnumber⟩
    obtain ⟨spelling, hspelling, htrim⟩ := exists_of_splitUnit hsplit
    obtain ⟨sign, digits, rfl, hsign, hrun, hn, hle⟩ := Text.natural?_eq_some_iff.1 hnumber
    obtain ⟨lead, trail, hs, hlead, htrail⟩ := Text.exists_append_trim s.toList
    rw [htrim] at hs
    exact ⟨hle, lead, sign, digits, spelling, trail, hs, hlead, hsign,
      ⟨hrun.ne_nil, hrun.isDigit⟩, hn, hspelling, htrail⟩

/-- A text spells one number of one unit. -/
lemma Spells.unique {n' : ℕ} {unit' : Scale} (h : Spells s n unit) (h' : Spells s n' unit') :
    n = n' ∧ unit = unit' := by
  obtain ⟨number, hsplit, hn⟩ := spells_iff.1 h
  obtain ⟨number', hsplit', hn'⟩ := spells_iff.1 h'
  rw [hsplit, Prod.mk.injEq] at hsplit'
  obtain ⟨rfl, rfl⟩ := hsplit'
  exact ⟨Option.some.inj (hn.symm.trans hn'), rfl⟩

lemma parse?_eq_map (h : splitUnit (Text.trim s.toList) = (number, unit)) :
    parse? s = (Text.natural? Text.maxWord number).map unit.times := by
  simp only [parse?, h]

/-- A text is read exactly if it spells so many of a unit, which it does in one way, and it is then
read as the nanoseconds that so many of the unit have. Every other text is refused. -/
theorem reading_exact (s : String) :
    (∀ d, parse? s = some d ↔ ∃ n unit, Spells s n unit ∧ d.nanos = n * unit.nanos) ∧
    (parse? s = none ↔ ∀ n unit, ¬ Spells s n unit) ∧
    ∀ n unit n' unit', Spells s n unit → Spells s n' unit' → n = n' ∧ unit = unit' := by
  have hsome : ∀ d, parse? s = some d ↔
      ∃ n unit, Spells s n unit ∧ d.nanos = n * unit.nanos := by
    intro d
    constructor
    · intro h
      rcases hsplit : splitUnit (Text.trim s.toList) with ⟨number, unit⟩
      rw [parse?_eq_map hsplit] at h
      obtain ⟨n, hn, rfl⟩ := Option.map_eq_some_iff.1 h
      exact ⟨n, unit, spells_iff.2 ⟨number, hsplit, hn⟩, by rw [Scale.times_eq]⟩
    · rintro ⟨n, unit, hspells, hd⟩
      obtain ⟨number, hsplit, hn⟩ := spells_iff.1 hspells
      rw [parse?_eq_map hsplit, hn, Option.map_some, Scale.times_eq, ← hd]
  refine ⟨hsome, ?_, fun n unit n' unit' h h' => h.unique h'⟩
  rw [Option.eq_none_iff_forall_ne_some]
  constructor
  · intro hnone n unit hspells
    exact hnone _ ((hsome ⟨n * unit.nanos⟩).2 ⟨n, unit, hspells, rfl⟩)
  · intro hnot d hd
    obtain ⟨n, unit, hspells, -⟩ := (hsome d).1 hd
    exact hnot n unit hspells

/-- A number that ends in `ms` is one of milliseconds, and white space may stand around it. -/
example : parse? "\u2003+0500ms\n" = some ⟨500 * 1000000⟩ := by decide

/-- White space before the unit, and an upper-case unit, are refused. -/
example : parse? "5 ms" = none ∧ parse? "5H" = none := by decide

end Duration

end Tenancy
