/-!
# Dates

Days of the proleptic Gregorian calendar, with years on both sides of the year zero.
-/

namespace Tenancy

namespace Calendar

/-- Whether a year has a day more. -/
def isLeap (year : Int) : Bool :=
  year % 4 = 0 && (year % 100 ≠ 0 || year % 400 = 0)

/-- The number of days of a month. -/
def daysIn (year : Int) (month : Nat) : Nat :=
  if month = 2 then if isLeap year then 29 else 28
  else if month = 4 ∨ month = 6 ∨ month = 9 ∨ month = 11 then 30
  else 31

/-- The first year. -/
def firstYear : Int := -262143

/-- The last year. -/
def lastYear : Int := 262142

end Calendar

/-- A day of the calendar. -/
structure Date where
  year : Int
  month : Nat
  day : Nat
  year_mem : Calendar.firstYear ≤ year ∧ year ≤ Calendar.lastYear
  month_mem : 1 ≤ month ∧ month ≤ 12
  day_mem : 1 ≤ day ∧ day ≤ Calendar.daysIn year month
  deriving DecidableEq, Repr

/-- The day with a year, a month and a day of the month, if the calendar has it. -/
def Date.ofParts? (year : Int) (month day : Nat) : Option Date :=
  if h : (Calendar.firstYear ≤ year ∧ year ≤ Calendar.lastYear) ∧ (1 ≤ month ∧ month ≤ 12)
      ∧ (1 ≤ day ∧ day ≤ Calendar.daysIn year month) then
    some ⟨year, month, day, h.1, h.2.1, h.2.2⟩
  else none

end Tenancy
