import Mathlib.Tactic.Common
import Tenancy.Toml.Quotation
import Tenancy.Toml.Writer

/-!
# Reading the strings that were written

A string in the style that it calls for is read back character by character, and what follows it
is left: `read?_writeString`. The delicate characters are quotation marks. Over several lines one or
two of them stand unescaped, and those right before the closing ones are told from them by their
number only.
-/

namespace Tenancy.Toml.Quotation

/-- What was read with one more character in front. -/
def before (c : Char) (found : List Char × List Char) : List Char × List Char :=
  (c :: found.1, found.2)

/-! ### Characters -/

lemma isPlain_of_not_isControl {c : Char} (h : isControl c = false) (hfeed : c ≠ '\n') :
    isPlain c = true := by
  simp only [isControl, Bool.and_eq_false_iff, Bool.or_eq_false_iff, decide_eq_false_iff_not,
    not_not] at h
  simp only [isPlain, Bool.or_eq_true, Bool.and_eq_true, decide_eq_true_eq]
  rcases h with (⟨hlow, hdelete⟩ | htab) | hline
  · exact .inr ⟨Nat.le_of_not_lt hlow, hdelete⟩
  · exact .inl htab
  · exact absurd hline hfeed

lemma ne_return_of_isPlain {c : Char} (h : isPlain c = true) : c ≠ '\r' := by
  rintro rfl
  cases h

lemma ne_of_shortEscape? {letter c d : Char} (h : shortEscape? letter = some c)
    (hd : shortEscape? d = none) : letter ≠ d := by
  rintro rfl
  rw [h] at hd
  cases hd

/-- The letters of the short escapes are no white space and end no line. -/
lemma endsLine_of_shortEscape? {letter c : Char} (h : shortEscape? letter = some c)
    (rest : List Char) : endsLine (letter :: rest) = false := by
  have hspace : isSpace letter = false := by
    simp [isSpace, ne_of_shortEscape? h (d := ' ') rfl, ne_of_shortEscape? h (d := '\t') rfl]
  rw [endsLine, List.dropWhile_cons_of_neg (by simp [hspace]),
    afterLineEnd?.eq_3 _ (fun _ heq => ne_of_shortEscape? h rfl (List.cons.inj heq).1)
      fun _ heq => ne_of_shortEscape? h rfl (List.cons.inj heq).1]
  rfl

lemma codePoint?_hexDigit : ∀ n < 0x80, n < 0x20 ∨ n = 0x7f →
    codePoint? ['0', '0', hexDigit (n / 16), hexDigit (n % 16)] = some (Char.ofNat n) := by
  decide

/-! ### Basic strings -/

/-- A letter after a backslash is read as the character that it stands for. -/
lemma basic?_short {letter c : Char} (h : shortEscape? letter = some c) (rest : List Char) :
    basic? ('\\' :: letter :: rest) = (basic? rest).map (before c) := by
  have hu : letter ≠ 'u' := ne_of_shortEscape? h rfl
  have hU : letter ≠ 'U' := ne_of_shortEscape? h rfl
  rw [basic?.eq_5 _ _ (fun _ _ _ _ _ h => absurd h hu)
    fun _ _ _ _ _ _ _ _ _ h => absurd h hU, h]
  cases basic? rest <;> rfl

lemma basic?_code {c : Char} (h : c.toNat < 0x20 ∨ c.toNat = 0x7f) (rest : List Char) :
    basic? ('\\' :: 'u' :: '0' :: '0' :: hexDigit (c.toNat / 16) :: hexDigit (c.toNat % 16)
        :: rest) = (basic? rest).map (before c) := by
  rw [basic?.eq_3, codePoint?_hexDigit _ (by omega) h, Char.ofNat_toNat]
  cases basic? rest <;> rfl

lemma basic?_plain {c : Char} (hquote : c ≠ '"') (hslash : c ≠ '\\') (hplain : isPlain c = true)
    (rest : List Char) : basic? (c :: rest) = (basic? rest).map (before c) := by
  rw [basic?.eq_6 _ _ hquote (fun _ _ _ _ _ h => absurd h hslash)
    (fun _ _ _ _ _ _ _ _ _ h => absurd h hslash) fun _ _ h => absurd h hslash,
    if_neg (by simp [hplain, hslash])]
  cases basic? rest <;> rfl

lemma basicLines?_short {letter c : Char} (h : shortEscape? letter = some c) (rest : List Char) :
    basicLines? false ('\\' :: letter :: rest) = (basicLines? false rest).map (before c) := by
  have hu : letter ≠ 'u' := ne_of_shortEscape? h rfl
  have hU : letter ≠ 'U' := ne_of_shortEscape? h rfl
  rw [basicLines?.eq_7 _ _ _ (fun _ _ _ _ _ h => absurd h hu)
    fun _ _ _ _ _ _ _ _ _ h => absurd h hU, if_neg (by simp [endsLine_of_shortEscape? h]), h]
  cases basicLines? false rest <;> rfl

lemma basicLines?_code {c : Char} (h : c.toNat < 0x20 ∨ c.toNat = 0x7f) (rest : List Char) :
    basicLines? false ('\\' :: 'u' :: '0' :: '0' :: hexDigit (c.toNat / 16)
        :: hexDigit (c.toNat % 16) :: rest) = (basicLines? false rest).map (before c) := by
  rw [basicLines?.eq_5, codePoint?_hexDigit _ (by omega) h, Char.ofNat_toNat]
  cases basicLines? false rest <;> rfl

/-- A character that stands for itself; a quotation mark does if no two others follow it. -/
lemma basicLines?_plain {c : Char} {rest : List Char} (hquote : c = '"' → ¬ ['"', '"'] <+: rest)
    (hslash : c ≠ '\\') (hplain : isPlain c = true ∨ c = '\n') :
    basicLines? false (c :: rest) = (basicLines? false rest).map (before c) := by
  have hquotes : c = '"' → ∀ more, rest ≠ '"' :: '"' :: more := by
    rintro hc more rfl
    exact hquote hc ⟨more, rfl⟩
  have hreturn : c ≠ '\r' := by
    rcases hplain with hplain | rfl
    · exact ne_return_of_isPlain hplain
    · decide
  rw [basicLines?.eq_9 _ _ _ (fun _ hc h => hquotes hc _ h) (fun _ hc h => hquotes hc _ h)
    (fun _ hc h => hquotes hc _ h) (fun _ _ _ _ _ h => absurd h hslash)
    (fun _ _ _ _ _ _ _ _ _ h => absurd h hslash) (fun _ _ h => absurd h hslash)
    fun _ h => absurd h hreturn]
  rw [if_neg (by rcases hplain with h | h <;> simp [h, hslash])]
  cases basicLines? false rest <;> simp [before]

/-! ### What is written for a character -/

/-- The three forms in which a character other than a quotation mark is written. -/
lemma escapedChar_cases (lines : Bool) (c : Char) :
    (∃ letter, shortEscape? letter = some c ∧ escapedChar lines c = ['\\', letter]) ∨
    ((c.toNat < 0x20 ∨ c.toNat = 0x7f) ∧ escapedChar lines c =
      ['\\', 'u', '0', '0', hexDigit (c.toNat / 16), hexDigit (c.toNat % 16)]) ∨
    (c ≠ '\\' ∧ (isPlain c = true ∨ lines = true ∧ c = '\n') ∧ escapedChar lines c = [c]) := by
  unfold escapedChar
  split_ifs with hback htab hfeed hlines hform hreturn hslash hcontrol
  · exact .inl ⟨'b', by rw [hback]; rfl, rfl⟩
  · exact .inl ⟨'t', by rw [htab]; rfl, rfl⟩
  · exact .inr (.inr ⟨by rw [hfeed]; decide, .inr ⟨hlines, hfeed⟩, rfl⟩)
  · exact .inl ⟨'n', by rw [hfeed]; rfl, rfl⟩
  · exact .inl ⟨'f', by rw [hform]; rfl, rfl⟩
  · exact .inl ⟨'r', by rw [hreturn]; rfl, rfl⟩
  · exact .inl ⟨'\\', by rw [hslash]; rfl, rfl⟩
  · exact .inr (.inl ⟨hcontrol, rfl⟩)
  · have hplain : isPlain c = true := by
      refine isPlain_of_not_isControl ?_ hfeed
      simpa [isControl, hfeed, htab] using hcontrol
    exact .inr (.inr ⟨hslash, .inl hplain, rfl⟩)

lemma basic?_escapedChar {c : Char} (hquote : c ≠ '"') (rest : List Char) :
    basic? (escapedChar false c ++ rest) = (basic? rest).map (before c) := by
  rcases escapedChar_cases false c with ⟨letter, hletter, h⟩ | ⟨hcode, h⟩ | ⟨hslash, hplain, h⟩
  · rw [h]
    exact basic?_short hletter rest
  · rw [h]
    exact basic?_code hcode rest
  · rw [h]
    exact basic?_plain hquote hslash (hplain.resolve_right (by simp)) rest

lemma basicLines?_escapedChar {c : Char} (hquote : c ≠ '"') (rest : List Char) :
    basicLines? false (escapedChar true c ++ rest) =
      (basicLines? false rest).map (before c) := by
  rcases escapedChar_cases true c with ⟨letter, hletter, h⟩ | ⟨hcode, h⟩ | ⟨hslash, hplain, h⟩
  · rw [h]
    exact basicLines?_short hletter rest
  · rw [h]
    exact basicLines?_code hcode rest
  · rw [h]
    exact basicLines?_plain (fun hc => absurd hc hquote) hslash (hplain.imp_right And.right)

/-- What is written for a character other than a quotation mark starts with none. -/
lemma escapedChar_eq_cons {c : Char} (hquote : c ≠ '"') (lines : Bool) :
    ∃ d ds, escapedChar lines c = d :: ds ∧ d ≠ '"' := by
  rcases escapedChar_cases lines c with ⟨letter, -, h⟩ | ⟨-, h⟩ | ⟨-, -, h⟩
  · exact ⟨'\\', _, h, by decide⟩
  · exact ⟨'\\', _, h, by decide⟩
  · exact ⟨c, _, h, hquote⟩

/-! ### Quotation marks -/

lemma escaped_cons {c : Char} (hquote : c ≠ '"') (lines : Bool) (quotes : ℕ) (cs : List Char) :
    escaped lines quotes (c :: cs) = escapedChar lines c ++ escaped lines 0 cs :=
  escaped.eq_3 _ _ _ _ hquote

/-- A mark that has to be escaped. -/
lemma escaped_quote {lines : Bool} {quotes : ℕ} (h : (if lines then 2 else 0) ≤ quotes)
    (cs : List Char) : escaped lines quotes ('"' :: cs) = '\\' :: '"' :: escaped lines 0 cs := by
  rw [escaped, if_neg (Nat.not_lt.2 h)]

/-- A mark that stands as it is. -/
lemma escaped_lines_quote {quotes : ℕ} (h : quotes < 2) (cs : List Char) :
    escaped true quotes ('"' :: cs) = '"' :: escaped true (quotes + 1) cs := by
  rw [escaped, if_pos (by simpa using h)]

/-- A body that may not go on with a mark does not start with one. -/
lemma head?_escaped {lines : Bool} {quotes : ℕ} (h : (if lines then 2 else 0) ≤ quotes)
    (c : Char) (cs rest : List Char) :
    (escaped lines quotes (c :: cs) ++ rest).head? ≠ some '"' := by
  by_cases hquote : c = '"'
  · subst hquote
    rw [escaped_quote h]
    simp
  · obtain ⟨d, ds, hds, hd⟩ := escapedChar_eq_cons hquote lines
    rw [escaped_cons hquote, hds]
    simpa using hd

lemma head?_of_isPrefix {q : Char} {qs cs : List Char} (h : q :: qs <+: cs) :
    cs.head? = some q := by
  obtain ⟨more, rfl⟩ := h
  rfl

/-- Where two marks stand next in a body over several lines, its end does. -/
lemma eq_of_isPrefix_escaped {quotes : ℕ} (hquotes : 1 ≤ quotes) {cs rest : List Char}
    (h : ['"', '"'] <+: escaped true quotes cs ++ '"' :: '"' :: '"' :: rest) :
    cs = [] ∨ (quotes = 1 ∧ cs = ['"']) := by
  have hnone : ∀ {quotes : ℕ} {c : Char} {cs qs : List Char}, 2 ≤ quotes →
      ¬ '"' :: qs <+: escaped true quotes (c :: cs) ++ '"' :: '"' :: '"' :: rest :=
    fun hge h => head?_escaped (by simpa using hge) _ _ _ (head?_of_isPrefix h)
  cases cs with
  | nil => exact .inl rfl
  | cons c cs =>
    rcases Nat.lt_or_ge quotes 2 with hlt | hge
    · have hone : quotes = 1 := by omega
      subst hone
      by_cases hquote : c = '"'
      · subst hquote
        rw [escaped_lines_quote hlt, List.cons_append, List.cons_prefix_cons] at h
        cases cs with
        | nil => exact .inr ⟨rfl, rfl⟩
        | cons d ds => exact absurd h.2 (hnone (by omega))
      · -- After another character than a mark nothing depends on how many stood before it.
        rw [escaped_cons hquote, ← escaped_cons hquote true 2] at h
        exact absurd h (hnone (by omega))
    · exact absurd h (hnone hge)

/-! ### Bodies -/

lemma basic?_escaped (cs rest : List Char) :
    basic? (escaped false 0 cs ++ '"' :: rest) = some (cs, rest) := by
  induction cs with
  | nil => rfl
  | cons c cs ih =>
    by_cases hquote : c = '"'
    · subst hquote
      rw [escaped_quote (by simp), List.cons_append, List.cons_append, basic?_short rfl, ih]
      rfl
    · rw [escaped_cons hquote, List.append_assoc, basic?_escapedChar hquote, ih]
      rfl

/-- By induction on the body, where `quotes` marks stand right before it. -/
lemma basicLines?_escaped (cs : List Char) {quotes : ℕ} {rest : List Char}
    (hrest : rest.head? ≠ some '"') :
    basicLines? false (escaped true quotes cs ++ '"' :: '"' :: '"' :: rest) = some (cs, rest) := by
  have hnext : ∀ more, rest ≠ '"' :: more := by
    rintro more rfl
    exact hrest rfl
  induction cs generalizing quotes with
  | nil => exact basicLines?.eq_4 _ _ (fun _ h => hnext _ h) hnext
  | cons c cs ih =>
    by_cases hquote : c = '"'
    · subst hquote
      rcases Nat.lt_or_ge quotes 2 with hlt | hge
      · rw [escaped_lines_quote hlt, List.cons_append]
        by_cases hmarks : ['"', '"'] <+: escaped true (quotes + 1) cs ++ '"' :: '"' :: '"' :: rest
        · -- The closing marks follow, after one mark or two of the body.
          rcases eq_of_isPrefix_escaped (by omega) hmarks with rfl | ⟨hone, rfl⟩
          · exact basicLines?.eq_3 _ _ hnext
          · rw [hone]
            rfl
        · rw [basicLines?_plain (fun _ => hmarks) (by decide) (.inl rfl), ih]
          rfl
      · rw [escaped_quote (by simpa using hge), List.cons_append, List.cons_append,
          basicLines?_short rfl, ih]
        rfl
    · rw [escaped_cons hquote, List.append_assoc, basicLines?_escapedChar hquote, ih]
      rfl

/-! ### Literal strings -/

lemma literal?_plain {c : Char} (hquote : c ≠ '\'') (hplain : isPlain c = true)
    (rest : List Char) : literal? (c :: rest) = (literal? rest).map (before c) := by
  rw [literal?.eq_3 _ _ hquote, if_neg (by simp [hplain])]
  cases literal? rest <;> rfl

/-- A character of a literal string; a quotation mark is one if no two others follow it. -/
lemma literalLines?_plain {c : Char} {rest : List Char}
    (hquote : c = '\'' → ¬ ['\'', '\''] <+: rest) (hplain : isPlain c = true ∨ c = '\n') :
    literalLines? (c :: rest) = (literalLines? rest).map (before c) := by
  have hquotes : c = '\'' → ∀ more, rest ≠ '\'' :: '\'' :: more := by
    rintro hc more rfl
    exact hquote hc ⟨more, rfl⟩
  have hreturn : c ≠ '\r' := by
    rcases hplain with hplain | rfl
    · exact ne_return_of_isPlain hplain
    · decide
  rw [literalLines?.eq_6 _ _ (fun _ hc h => hquotes hc _ h) (fun _ hc h => hquotes hc _ h)
    (fun _ hc h => hquotes hc _ h) fun _ h => absurd h hreturn]
  rw [if_neg (by rcases hplain with h | h <;> simp [h])]
  cases literalLines? rest <;> rfl

lemma longestRun_le_cons (q c : Char) (cs : List Char) :
    longestRun q cs ≤ longestRun q (c :: cs) := Nat.le_max_right _ _

lemma takeWhile_le_longestRun (q : Char) (cs : List Char) :
    (cs.takeWhile (· = q)).length ≤ longestRun q cs := by
  cases cs with
  | nil => exact Nat.le_refl _
  | cons c cs => exact Nat.le_max_left _ _

lemma not_mem_of_longestRun {q : Char} {cs : List Char} (h : longestRun q cs = 0) : q ∉ cs := by
  induction cs with
  | nil => exact List.not_mem_nil
  | cons c cs ih =>
    have hhead := takeWhile_le_longestRun q (c :: cs)
    have htail := longestRun_le_cons q c cs
    rw [h] at hhead htail
    have hne : q ≠ c := by
      rintro rfl
      simp at hhead
    exact List.not_mem_cons_of_ne_of_not_mem hne (ih (Nat.le_zero.1 htail))

lemma literal?_append {cs : List Char} (hquote : '\'' ∉ cs) (hplain : ∀ c ∈ cs, isPlain c = true)
    (rest : List Char) : literal? (cs ++ '\'' :: rest) = some (cs, rest) := by
  induction cs with
  | nil => rfl
  | cons c cs ih =>
    have hne : c ≠ '\'' := fun h => hquote (h ▸ List.mem_cons_self)
    rw [List.cons_append, literal?_plain hne (hplain c List.mem_cons_self),
      ih (fun h => hquote (List.mem_cons_of_mem _ h)) fun d hd =>
        hplain d (List.mem_cons_of_mem _ hd)]
    rfl

/-- Where two marks stand next in a literal body that goes on after a mark, its end does. -/
lemma eq_of_isPrefix_literal {cs rest : List Char} (hrun : longestRun '\'' ('\'' :: cs) ≤ 2)
    (h : ['\'', '\''] <+: cs ++ '\'' :: '\'' :: '\'' :: rest) : cs = [] ∨ cs = ['\''] := by
  obtain ⟨more, hmore⟩ := h
  match cs, hrun, hmore with
  | [], _, _ => exact .inl rfl
  | ['\''], _, _ => exact .inr rfl
  | c :: d :: ds, hrun, hmore =>
    -- Three marks in a row are longer than any run of the body.
    have hc : '\'' = c := (List.cons.inj hmore).1
    have hd : '\'' = d := (List.cons.inj (List.cons.inj hmore).2).1
    subst hc hd
    have hlong := takeWhile_le_longestRun '\'' ('\'' :: '\'' :: '\'' :: ds)
    simp only [List.takeWhile_cons, decide_true, if_true, List.length_cons] at hlong
    omega

lemma literalLines?_append {cs : List Char} (hrun : longestRun '\'' cs ≤ 2)
    (hplain : ∀ c ∈ cs, isPlain c = true ∨ c = '\n') {rest : List Char}
    (hrest : rest.head? ≠ some '\'') :
    literalLines? (cs ++ '\'' :: '\'' :: '\'' :: rest) = some (cs, rest) := by
  have hnext : ∀ more, rest ≠ '\'' :: more := by
    rintro more rfl
    exact hrest rfl
  induction cs with
  | nil => exact literalLines?.eq_4 _ (fun _ h => hnext _ h) hnext
  | cons c cs ih =>
    have hread := ih (Nat.le_trans (longestRun_le_cons _ c cs) hrun) fun d hd =>
      hplain d (List.mem_cons_of_mem _ hd)
    rw [List.cons_append]
    by_cases hmarks : c = '\'' ∧ ['\'', '\''] <+: cs ++ '\'' :: '\'' :: '\'' :: rest
    · obtain ⟨rfl, hmarks⟩ := hmarks
      rcases eq_of_isPrefix_literal hrun hmarks with rfl | rfl
      · exact literalLines?.eq_3 _ hnext
      · rfl
    · rw [literalLines?_plain (fun hc h => hmarks ⟨hc, h⟩) (hplain c List.mem_cons_self), hread]
      rfl

/-! ### Whole strings -/

/-- One mark that no two others follow opens a string of one line. -/
lemma read?_basic {cs : List Char} (h : ¬ ['"', '"'] <+: cs) : read? ('"' :: cs) = basic? cs :=
  read?.eq_2 _ fun more hmore => h ⟨more, hmore.symm⟩

lemma read?_literal {cs : List Char} (h : ¬ ['\'', '\''] <+: cs) :
    read? ('\'' :: cs) = literal? cs :=
  read?.eq_4 _ fun more hmore => h ⟨more, hmore.symm⟩

lemma skipLineEnd_cons {c : Char} (hfeed : c ≠ '\n') (hreturn : c ≠ '\r') (cs : List Char) :
    skipLineEnd (c :: cs) = c :: cs := by
  rw [skipLineEnd, afterLineEnd?.eq_3 _ (fun _ h => hfeed (List.cons.inj h).1) fun _ h =>
    hreturn (List.cons.inj h).1]
  rfl

/-- The line end at the start of a body is the one that was put there, if there is one. -/
lemma skipLineEnd_start {feed : Bool} {cs : List Char}
    (h : feed = false → skipLineEnd cs = cs) :
    skipLineEnd ((if feed then ['\n'] else []) ++ cs) = cs := by
  cases feed with
  | true => rfl
  | false => exact h rfl

lemma skipLineEnd_escaped {cs : List Char} (hfeed : '\n' ∉ cs) (rest : List Char) :
    skipLineEnd (escaped true 0 cs ++ '"' :: rest) = escaped true 0 cs ++ '"' :: rest := by
  cases cs with
  | nil => rfl
  | cons c cs =>
    by_cases hquote : c = '"'
    · subst hquote
      rfl
    · rw [escaped_cons hquote]
      rcases escapedChar_cases true c with ⟨letter, -, h⟩ | ⟨-, h⟩ | ⟨-, hplain, h⟩
      · rw [h]
        rfl
      · rw [h]
        rfl
      · rw [h]
        have hc : c ≠ '\n' := fun h => hfeed (h ▸ List.mem_cons_self)
        exact skipLineEnd_cons hc
          (ne_return_of_isPlain (hplain.resolve_right fun h => hc h.2)) _

section Styles

variable {cs rest : List Char}

lemma read?_write_basic (feed : Bool) (hrest : rest.head? ≠ some '"') :
    read? (Style.basic.write feed cs ++ rest) = some (cs, rest) := by
  have hopen : ¬ ['"', '"'] <+: escaped false 0 cs ++ '"' :: rest := by
    intro h
    cases cs with
    | nil => exact hrest (head?_of_isPrefix (List.cons_prefix_cons.1 h).2)
    | cons c cs => exact head?_escaped (by simp) c cs _ (head?_of_isPrefix h)
  rw [Style.write, List.cons_append, List.cons_append, List.append_assoc, List.singleton_append,
    read?_basic hopen, basic?_escaped]

lemma read?_write_literal (feed : Bool) (hquote : '\'' ∉ cs)
    (hplain : ∀ c ∈ cs, isPlain c = true) (hrest : rest.head? ≠ some '\'') :
    read? (Style.literal.write feed cs ++ rest) = some (cs, rest) := by
  have hopen : ¬ ['\'', '\''] <+: cs ++ '\'' :: rest := by
    intro h
    cases cs with
    | nil => exact hrest (head?_of_isPrefix (List.cons_prefix_cons.1 h).2)
    | cons c cs => exact hquote ((List.cons_prefix_cons.1 h).1 ▸ List.mem_cons_self)
  rw [Style.write, List.cons_append, List.cons_append, List.append_assoc, List.singleton_append,
    read?_literal hopen, literal?_append hquote hplain]

lemma read?_write_basicLines {feed : Bool} (hfeed : feed = false → '\n' ∉ cs)
    (hrest : rest.head? ≠ some '"') :
    read? (Style.basicLines.write feed cs ++ rest) = some (cs, rest) := by
  have hstart := skipLineEnd_start fun h =>
    skipLineEnd_escaped (hfeed h) ('"' :: '"' :: rest)
  simp only [Style.write, List.append_assoc, List.cons_append, List.nil_append, read?]
  rw [hstart, basicLines?_escaped cs hrest]

lemma read?_write_literalLines {feed : Bool} (hfeed : feed = false → '\n' ∉ cs)
    (hrun : longestRun '\'' cs ≤ 2) (hplain : ∀ c ∈ cs, isPlain c = true ∨ c = '\n')
    (hrest : rest.head? ≠ some '\'') :
    read? (Style.literalLines.write feed cs ++ rest) = some (cs, rest) := by
  have hbody : feed = false →
      skipLineEnd (cs ++ '\'' :: '\'' :: '\'' :: rest) = cs ++ '\'' :: '\'' :: '\'' :: rest := by
    intro h
    cases cs with
    | nil => rfl
    | cons c cs =>
      have hc : c ≠ '\n' := fun hc => hfeed h (hc ▸ List.mem_cons_self)
      exact skipLineEnd_cons hc
        (ne_return_of_isPlain ((hplain c List.mem_cons_self).resolve_right hc)) _
  have hstart := skipLineEnd_start hbody
  simp only [Style.write, List.append_assoc, List.cons_append, List.nil_append, read?]
  rw [hstart, literalLines?_append hrun hplain hrest]

end Styles

/-- A string that was written is read back, with what follows it left over, unless that goes on
with a quotation mark. -/
theorem read?_writeString (s : String) {rest : List Char} (hdouble : rest.head? ≠ some '"')
    (hsingle : rest.head? ≠ some '\'') :
    read? (writeString s ++ rest) = some (s.toList, rest) := by
  generalize hcs : s.toList = cs
  have hfeed : (Contents.ofList cs).hasLineFeed = false → '\n' ∉ cs := by
    simp [Contents.ofList]
  have hcontrol : (Contents.ofList cs).hasControl = false → ∀ c ∈ cs, isControl c = false := by
    simp [Contents.ofList]
  rw [writeString, hcs]
  unfold Contents.style
  split_ifs with hbasic hliteral hbasicLines hliteralLines
  · exact read?_write_basic _ hdouble
  · simp only [Bool.and_eq_true, Bool.not_eq_true', decide_eq_true_eq] at hliteral
    obtain ⟨⟨hctl, hquotes⟩, hline⟩ := hliteral
    refine read?_write_literal _ (not_mem_of_longestRun hquotes) ?_ hsingle
    intro c hc
    exact isPlain_of_not_isControl (hcontrol hctl c hc) fun h => hfeed hline (h ▸ hc)
  · exact read?_write_basicLines hfeed hdouble
  · simp only [Bool.and_eq_true, Bool.not_eq_true', decide_eq_true_eq] at hliteralLines
    refine read?_write_literalLines hfeed hliteralLines.2 ?_ hsingle
    intro c hc
    by_cases hline : c = '\n'
    · exact .inr hline
    · exact .inl (isPlain_of_not_isControl (hcontrol hliteralLines.1 c hc) hline)
  · exact read?_write_basicLines hfeed hdouble
  · exact read?_write_basic _ hdouble

end Tenancy.Toml.Quotation
