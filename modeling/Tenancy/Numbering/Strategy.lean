import Tenancy.Numbering.Error
import Tenancy.Settings.Basic
import Tenancy.Text.Blank

/-!
# Strategies of numbering

Numbers are drawn one by one from the counter, which leaves no gaps, or in ranges that are handed
out from memory, which asks the counter less often.
-/

namespace Tenancy

/-- How numbers are drawn. -/
inductive Strategy
  | strict
  | cached (size : Nat) (pos : 0 < size)
  deriving DecidableEq, Repr

namespace Strategy

/-- The size of a range unless another is given. -/
def defaultSize : Nat := 50

/-- Ranges of the default size. -/
def default : Strategy := .cached defaultSize (by decide)

instance : Inhabited Strategy := ⟨default⟩

/-- Ranges of a size, which must not be zero. -/
def cached? (size : Nat) : Except NumberingError Strategy :=
  if h : 0 < size then .ok (.cached size h) else .error .emptyRange

/-- The strategy that settings ask for. White space around its name does not count. -/
def ofSettings (s : NumberingSettings) : Except NumberingError Strategy :=
  match s.strategy.map fun name => String.ofList (Text.trim name.toList) with
  | none | some "cached" => cached? (s.rangeSize.getD defaultSize)
  | some "strict" => .ok .strict
  | some name => .error (.unknownStrategy name)

/-- A strategy as diagnostics show it. -/
def label : Strategy → String
  | .strict => "Strict"
  | .cached size _ => "Cached \x7b range_size: " ++ toString size ++ " \x7d"

end Strategy

end Tenancy
