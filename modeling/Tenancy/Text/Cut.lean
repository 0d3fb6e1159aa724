/-!
# Cutting a text

A text is cut at the first or last place where a character occurs, or after the first occurrence
of a marker. The parts put together again give the text.
-/

namespace Tenancy.Text

/-- Cuts at the first character that satisfies `p`: what stands before it, and the rest from it
on; `none` if there is no such character. -/
def cutAt? (p : Char → Bool) : List Char → Option (List Char × List Char)
  | [] => none
  | c :: rest =>
    if p c then some ([], c :: rest)
    else (cutAt? p rest).map fun (before, after) => (c :: before, after)

/-- Cuts at the last character that satisfies `p`. -/
def cutAtLast? (p : Char → Bool) : List Char → Option (List Char × List Char)
  | [] => none
  | c :: rest =>
    match cutAtLast? p rest with
    | some (before, after) => some (c :: before, after)
    | none => if p c then some ([], c :: rest) else none

/-- The text after `marker`, if it starts with it. -/
def afterPrefix? : List Char → List Char → Option (List Char)
  | [], cs => some cs
  | _ :: _, [] => none
  | m :: marker, c :: rest => if m = c then afterPrefix? marker rest else none

/-- The text up to the end of the first occurrence of `marker`, and the text after it. -/
def cutAfter? (marker : List Char) : List Char → Option (List Char × List Char)
  | [] => if marker = [] then some ([], []) else none
  | c :: rest =>
    match afterPrefix? marker (c :: rest) with
    | some after => some (marker, after)
    | none => (cutAfter? marker rest).map fun (before, after) => (c :: before, after)

theorem append_of_cutAt? {p : Char → Bool} {cs before after : List Char}
    (h : cutAt? p cs = some (before, after)) : before ++ after = cs := by
  induction cs generalizing before after with
  | nil => simp [cutAt?] at h
  | cons c rest ih =>
    simp only [cutAt?] at h
    split at h
    · simp only [Option.some.injEq, Prod.mk.injEq] at h
      obtain ⟨rfl, rfl⟩ := h
      rfl
    · obtain ⟨⟨b, a⟩, hb, heq⟩ := Option.map_eq_some_iff.1 h
      simp only [Prod.mk.injEq] at heq
      obtain ⟨rfl, rfl⟩ := heq
      simp [ih hb]

theorem eq_append_of_afterPrefix? {marker cs rest : List Char}
    (h : afterPrefix? marker cs = some rest) : cs = marker ++ rest := by
  induction marker generalizing cs with
  | nil => simpa [afterPrefix?] using h
  | cons m marker ih =>
    cases cs with
    | nil => simp [afterPrefix?] at h
    | cons c cs =>
      simp only [afterPrefix?] at h
      split at h
      next hc => simp [hc, ih h]
      next => simp at h

end Tenancy.Text
