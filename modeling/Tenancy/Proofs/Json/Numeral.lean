import Tenancy.Json.Value
import Tenancy.Json.Writer
import Tenancy.Proofs.Text.Decimal

/-!
# Numerals as they are written

`Numeral.text` is the text of a numeral, and `unsigned?_append` says that a numeral is read from it
whatever follows that cannot belong to it. Numbers are written as such texts: `signed_eq_text` for
integers and `written_eq_text` for binary numbers.
-/

namespace Tenancy.Json

open Text (IsRun decimal)

/-! ### Texts of numerals -/

namespace Numeral

/-- The text of a numeral without its sign. -/
def unsignedText (n : Numeral) : List Char :=
  n.whole ++ n.fraction.elim [] (fun digits => '.' :: digits)
    ++ n.exponent.elim [] fun e => 'e' :: (if e.1 then ['-'] else []) ++ e.2

/-- The text of a numeral. -/
def text (n : Numeral) : List Char :=
  (if n.negative then ['-'] else []) ++ n.unsignedText

/-- Each part has digits, and those before the point do not start with a zero that is not alone. -/
structure WellFormed (n : Numeral) : Prop where
  whole : n.whole = ['0'] ∨ IsRun n.whole ∧ n.whole.head? ≠ some '0'
  fraction : ∀ digits, n.fraction = some digits → IsRun digits
  exponent : ∀ e, n.exponent = some e → IsRun e.2

end Numeral

/-- What can stand after a value: the end, or a mark that ends an item or a member. -/
def Stops (rest : List Char) : Prop :=
  ∀ c, rest.head? = some c → c = ',' ∨ c = ']' ∨ c = '\x7d'

lemma stops_nil : Stops [] := by
  intro c h
  cases h

lemma stops_cons {c : Char} (h : c = ',' ∨ c = ']' ∨ c = '\x7d') (rest : List Char) :
    Stops (c :: rest) := by
  intro c' hc'
  cases hc'
  exact h

namespace Syntax

lemma head?_eq_self {rest : List Char} {p : Char → Bool}
    (h : ∀ c, rest.head? = some c → p c = false) :
    rest.takeWhile p = [] ∧ rest.dropWhile p = rest := by
  cases rest with
  | nil => exact ⟨rfl, rfl⟩
  | cons c cs =>
    have hc := h c rfl
    simp [hc]

lemma digits?_append {run rest : List Char} (hrun : IsRun run)
    (hrest : ∀ c, rest.head? = some c → c.isDigit = false) :
    digits? (run ++ rest) = some (run, rest) := by
  obtain ⟨htake, hdrop⟩ := head?_eq_self hrest
  obtain ⟨c, cs, hcs⟩ := List.exists_cons_of_ne_nil hrun.ne_nil
  have htaken : (run ++ rest).takeWhile Char.isDigit = run := by
    rw [List.takeWhile_append_of_pos hrun.isDigit, htake, List.append_nil]
  have hdropped : (run ++ rest).dropWhile Char.isDigit = rest := by
    rw [List.dropWhile_append_of_pos hrun.isDigit, hdrop]
  rw [digits?, htaken, hdropped, hcs]

lemma whole?_append {run rest : List Char}
    (hrun : run = ['0'] ∨ IsRun run ∧ run.head? ≠ some '0')
    (hrest : ∀ c, rest.head? = some c → c.isDigit = false) :
    whole? (run ++ rest) = some (run, rest) := by
  rcases hrun with rfl | ⟨hrun, hhead⟩
  · cases rest with
    | nil => rfl
    | cons c cs => simp [whole?, hrest c rfl]
  · obtain ⟨c, cs, rfl⟩ := List.exists_cons_of_ne_nil hrun.ne_nil
    have hc : c ≠ '0' := by simpa using hhead
    have heq : whole? (c :: (cs ++ rest)) = digits? (c :: (cs ++ rest)) := by
      unfold whole?
      split
      next h => exact absurd (List.cons.inj h).1 hc
      next => rfl
    rw [List.cons_append, heq, ← List.cons_append]
    exact digits?_append hrun hrest

lemma fraction?_append {fraction : Option (List Char)} {rest : List Char}
    (hrun : ∀ digits, fraction = some digits → IsRun digits)
    (hrest : ∀ c, rest.head? = some c → c.isDigit = false ∧ c ≠ '.') :
    fraction? (fraction.elim [] (fun digits => '.' :: digits) ++ rest) = some (fraction, rest) := by
  cases fraction with
  | none =>
    cases rest with
    | nil => rfl
    | cons c cs =>
      have hc := (hrest c rfl).2
      simp only [Option.elim_none, List.nil_append]
      unfold fraction?
      split
      next h => exact absurd (List.cons.inj h).1 hc
      next => rfl
  | some digits =>
    have hdigits := digits?_append (hrun digits rfl) fun c hc => (hrest c hc).1
    simp [fraction?, hdigits]

lemma exponent?_append {exponent : Option (Bool × List Char)} {rest : List Char}
    (hrun : ∀ e, exponent = some e → IsRun e.2)
    (hrest : ∀ c, rest.head? = some c → c.isDigit = false ∧ c ≠ 'e' ∧ c ≠ 'E') :
    exponent? (exponent.elim [] (fun e => 'e' :: (if e.1 then ['-'] else []) ++ e.2) ++ rest) =
      some (exponent, rest) := by
  cases exponent with
  | none =>
    cases rest with
    | nil => rfl
    | cons c cs =>
      have hc := (hrest c rfl).2
      simp only [Option.elim_none, List.nil_append]
      unfold exponent?
      simp only
      split
      next h => exact absurd (List.cons.inj h).1 hc.1
      next h => exact absurd (List.cons.inj h).1 hc.2
      next => rfl
  | some e =>
    obtain ⟨negative, digits⟩ := e
    have hdigits := digits?_append (hrun _ rfl) fun c hc => (hrest c hc).1
    cases negative with
    | true => simp [exponent?, hdigits]
    | false =>
      obtain ⟨c, cs, rfl⟩ := List.exists_cons_of_ne_nil (hrun _ rfl).ne_nil
      have hc : c.isDigit = true := (hrun _ rfl).isDigit c List.mem_cons_self
      have hplus : c ≠ '+' := by
        rintro rfl
        cases hc
      have hminus : c ≠ '-' := by
        rintro rfl
        cases hc
      simp only [List.cons_append] at hdigits
      simp [exponent?, hdigits, hplus, hminus]

/-- A numeral is read from its text. -/
theorem unsigned?_append {n : Numeral} (h : n.WellFormed) {rest : List Char}
    (hrest : Stops rest) :
    unsigned? n.negative (n.unsignedText ++ rest) = some (n, rest) := by
  have hstop : ∀ c, rest.head? = some c →
      c.isDigit = false ∧ c ≠ '.' ∧ c ≠ 'e' ∧ c ≠ 'E' := by
    intro c hc
    rcases hrest c hc with rfl | rfl | rfl <;> decide
  obtain ⟨negative, whole, fraction, exponent⟩ := n
  set tail := exponent.elim [] (fun e => 'e' :: (if e.1 then ['-'] else []) ++ e.2) ++ rest
    with htail
  have htailHead : ∀ c, tail.head? = some c → c.isDigit = false ∧ c ≠ '.' := by
    intro c hc
    cases exponent with
    | none => exact ⟨(hstop c hc).1, (hstop c hc).2.1⟩
    | some e =>
      cases hc
      decide
  have hmidHead : ∀ c, (fraction.elim [] (fun digits => '.' :: digits) ++ tail).head? = some c →
      c.isDigit = false := by
    intro c hc
    cases fraction with
    | none => exact (htailHead c hc).1
    | some digits =>
      cases hc
      decide
  have hwhole := whole?_append h.whole hmidHead
  have hfraction := fraction?_append h.fraction htailHead
  have hexponent := exponent?_append h.exponent fun c hc =>
    ⟨(hstop c hc).1, (hstop c hc).2.2⟩
  rw [← htail] at hexponent
  simp only [unsigned?, Numeral.unsignedText, List.append_assoc]
  rw [← htail]
  simp only [hwhole, hfraction, hexponent, Option.bind_eq_bind, Option.bind_some]
  rfl

end Syntax

/-! ### Numbers as numerals -/

lemma signed_eq_text (n : Int) : Text.signed n = (Numeral.ofInt n).text := by
  rw [Text.signed_eq, Numeral.text, Numeral.unsignedText, Numeral.ofInt]
  by_cases h : n < 0 <;> simp [h]

lemma whole_decimal (n : Nat) :
    decimal n = ['0'] ∨ IsRun (decimal n) ∧ (decimal n).head? ≠ some '0' := by
  by_cases h : n = 0
  · rw [h]
    exact .inl Text.decimal_zero
  · exact .inr ⟨Text.isRun_decimal n, Text.head?_decimal h⟩

lemma wellFormed_ofInt (n : Int) : (Numeral.ofInt n).WellFormed := by
  refine ⟨whole_decimal _, ?_, ?_⟩
  · intro digits h
    cases h
  · intro e h
    cases h

/-- The numeral of a binary number whose shortest decimal is `d`. -/
def Numeral.ofDecimal (layout : Binary64.Layout) (negative : Bool) (d : Binary64.Decimal) :
    Numeral :=
  let shown := decimal d.digits
  let point : Int := shown.length + d.exponent
  if d.digits = 0 then ⟨negative, ['0'], some ['0'], none⟩
  else if layout.fewestPlaces < point ∧ point ≤ 0 then
    ⟨negative, ['0'], some (List.replicate (-point).toNat '0' ++ shown), none⟩
  else if 0 ≤ d.exponent ∧ point ≤ layout.mostPlaces then
    ⟨negative, shown ++ List.replicate d.exponent.toNat '0', some ['0'], none⟩
  else if 0 < point ∧ point ≤ layout.mostPlaces then
    ⟨negative, shown.take point.toNat, some (shown.drop point.toNat), none⟩
  else
    ⟨negative, shown.take 1, if shown.length = 1 then none else some (shown.drop 1),
      some (point - 1 < 0, decimal (point - 1).natAbs)⟩

@[simp] lemma ofDecimal_negative (layout : Binary64.Layout) (negative : Bool)
    (d : Binary64.Decimal) : (Numeral.ofDecimal layout negative d).negative = negative := by
  simp only [Numeral.ofDecimal]
  split_ifs <;> rfl

lemma written_eq_text (layout : Binary64.Layout) (x : Binary64) :
    x.written layout = (Numeral.ofDecimal layout x.negative x.shortest).text := by
  obtain ⟨c, cs, hcs⟩ := List.exists_cons_of_ne_nil (Text.isRun_decimal x.shortest.digits).ne_nil
  rw [Binary64.written, Numeral.text, ofDecimal_negative]
  congr 1
  simp only [Numeral.ofDecimal]
  split_ifs with hzero hsmall hwhole hpoint hlength
  · rfl
  · simp [Numeral.unsignedText]
  · simp [Numeral.unsignedText]
  · simp [Numeral.unsignedText]
  · rw [hcs] at hlength ⊢
    rw [List.length_eq_one_iff] at hlength
    obtain ⟨c', hc'⟩ := hlength
    simp [Numeral.unsignedText, Text.signed_eq, hc']
  · rw [hcs] at hlength ⊢
    cases cs with
    | nil => exact absurd rfl hlength
    | cons c' cs => simp [Numeral.unsignedText, Text.signed_eq]

lemma isRun_zero : IsRun ['0'] := ⟨List.cons_ne_nil _ _, by simp⟩

lemma isDigit_zeros (n : Nat) : ∀ c ∈ List.replicate n '0', c.isDigit = true := by
  intro c hc
  rw [List.eq_of_mem_replicate hc]
  rfl

/-- The first digits of a number other than zero do not start with a zero. -/
lemma head?_take_decimal {n k : Nat} (hn : n ≠ 0) (hk : 0 < k) :
    IsRun ((decimal n).take k) ∧ ((decimal n).take k).head? ≠ some '0' := by
  obtain ⟨hnil, hdigit⟩ := Text.isRun_decimal n
  refine ⟨⟨?_, fun c hc => hdigit c (List.mem_of_mem_take hc)⟩, ?_⟩
  · rw [Ne, List.take_eq_nil_iff]
    rintro (h | h)
    · omega
    · exact hnil h
  · rw [List.head?_take, if_neg (Nat.ne_of_gt hk)]
    exact Text.head?_decimal hn

lemma isRun_drop_decimal {n k : Nat} (h : k < (decimal n).length) :
    IsRun ((decimal n).drop k) := by
  refine ⟨?_, fun c hc => (Text.isRun_decimal n).isDigit c (List.mem_of_mem_drop hc)⟩
  rw [Ne, List.drop_eq_nil_iff]
  exact Nat.not_le.2 h

lemma wellFormed_ofDecimal (layout : Binary64.Layout) (negative : Bool) (d : Binary64.Decimal) :
    (Numeral.ofDecimal layout negative d).WellFormed := by
  have hrun := Text.isRun_decimal d.digits
  have hlength : 0 < (decimal d.digits).length := List.length_pos_iff.2 hrun.ne_nil
  simp only [Numeral.ofDecimal]
  split_ifs with hzero hsmall hwhole hpoint hone
  · refine ⟨.inl rfl, ?_, by simp⟩
    rintro digits ⟨⟩
    exact isRun_zero
  · refine ⟨.inl rfl, ?_, by simp⟩
    rintro digits ⟨⟩
    refine ⟨by simp [hrun.ne_nil], ?_⟩
    intro c hc
    rcases List.mem_append.1 hc with hc | hc
    · exact isDigit_zeros _ c hc
    · exact hrun.isDigit c hc
  · refine ⟨.inr ⟨hrun.append (isDigit_zeros _), ?_⟩, ?_, by simp⟩
    · obtain ⟨c, cs, hcs⟩ := List.exists_cons_of_ne_nil hrun.ne_nil
      have hhead := Text.head?_decimal hzero
      rw [hcs] at hhead ⊢
      exact hhead
    · rintro digits ⟨⟩
      exact isRun_zero
  · -- The point falls between two of the digits.
    refine ⟨.inr (head?_take_decimal hzero (by omega)), ?_, by simp⟩
    rintro digits ⟨⟩
    exact isRun_drop_decimal (by omega)
  · refine ⟨.inr (head?_take_decimal hzero Nat.one_pos), by simp, ?_⟩
    rintro e ⟨⟩
    exact Text.isRun_decimal _
  · refine ⟨.inr (head?_take_decimal hzero Nat.one_pos), ?_, ?_⟩
    · rintro digits ⟨⟩
      exact isRun_drop_decimal (by omega)
    · rintro e ⟨⟩
      exact Text.isRun_decimal _

end Tenancy.Json
