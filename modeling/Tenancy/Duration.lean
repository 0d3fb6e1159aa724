import Tenancy.Text.Blank
import Tenancy.Text.Decimal

/-!
# Durations

Spans of time in whole nanoseconds, the text that settings give them in, and the text that
diagnostics show them in.
-/

namespace Tenancy

/-- A span of time. -/
structure Duration where
  nanos : Nat
  deriving DecidableEq, Repr, Inhabited

namespace Duration

/-- So many milliseconds. -/
def ofMillis (n : Nat) : Duration := ⟨n * 1000000⟩

/-- So many seconds. -/
def ofSeconds (n : Nat) : Duration := ⟨n * 1000000000⟩

/-- The whole seconds of a duration. -/
def seconds (d : Duration) : Nat := d.nanos / 1000000000

/-- The nanoseconds after the whole seconds. -/
def subsecond (d : Duration) : Nat := d.nanos % 1000000000

/-- The whole milliseconds of a duration. -/
def millis (d : Duration) : Nat := d.nanos / 1000000

/-- Whether nothing of the duration is left. -/
def isZero (d : Duration) : Bool := d.nanos = 0

/-- Half of a duration, rounded down to nanoseconds. -/
def half (d : Duration) : Duration := ⟨d.nanos / 2⟩

/-! ### Reading -/

/-- The units of a setting. -/
inductive Scale
  | milli | second | minute | hour
  deriving DecidableEq, Repr

/-- So many of a unit. The seconds in minutes and hours are multiplied out without a bound: numbers
of them that come to more seconds than 64 bits hold, on which reading may fail, are not modelled. -/
def Scale.times : Scale → Nat → Duration
  | .milli, n => ofMillis n
  | .second, n => ofSeconds n
  | .minute, n => ofSeconds (n * 60)
  | .hour, n => ofSeconds (n * 3600)

/-- Splits a text into what stands before its unit, and the unit: `ms`, `s`, `m`, `h`, or seconds
if it ends in none of them. -/
def splitUnit (cs : List Char) : List Char × Scale :=
  match cs.reverse with
  | 's' :: 'm' :: rest => (rest.reverse, .milli)
  | 's' :: rest => (rest.reverse, .second)
  | 'm' :: rest => (rest.reverse, .minute)
  | 'h' :: rest => (rest.reverse, .hour)
  | _ => (cs, .second)

/-- Reads a number of 64 bits and its unit, with white space allowed around the two. -/
def parse? (s : String) : Option Duration :=
  let (number, unit) := splitUnit (Text.trim s.toList)
  (Text.natural? Text.maxWord number).map unit.times

/-! ### Showing -/

/-- A fraction of the given number of decimal places, without the zeros at its end, after a point;
nothing for the fraction zero. -/
def fraction (places n : Nat) : List Char :=
  let shown := ((Text.padded places n).reverse.dropWhile (· = '0')).reverse
  if shown = [] then [] else '.' :: shown

/-- A duration in the largest unit of seconds, milli-, micro- and nanoseconds that it fills, with
the fraction it takes. -/
def text (d : Duration) : String :=
  let shown (unit places : Nat) (name : List Char) :=
    Text.decimal (d.nanos / unit) ++ fraction places (d.nanos % unit) ++ name
  String.ofList <|
    if 1000000000 ≤ d.nanos then shown 1000000000 9 ['s']
    else if 1000000 ≤ d.nanos then shown 1000000 6 ['m', 's']
    else if 1000 ≤ d.nanos then shown 1000 3 ['µ', 's']
    else shown 1 0 ['n', 's']

end Duration

end Tenancy
