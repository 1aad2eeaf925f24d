import ProxyControl.Text.Number

/-!
# Timestamps

A timestamp counts nanoseconds since the start of 1970 in universal time. It is written as a date
and a time of day with as few digits of the second's fraction as are exact: none, or three, six or
nine.

## Main definitions

* `Date`, `Date.ofDays`: the civil date a number of days after the first of January 1970
* `Timestamp`: a point in time, to the nanosecond
* `Timestamp.render`: the written form
-/

set_option autoImplicit false

namespace ProxyControl

open Text

/-- A day of the civil calendar. -/
structure Date where
  year : Nat
  /-- The month, from one. -/
  month : Nat
  /-- The day of the month, from one. -/
  day : Nat
  deriving DecidableEq, Repr

/-- The date a number of days after the first of January 1970. Years are counted from March, so
that the leap day comes last, in eras of four hundred years. -/
def Date.ofDays (days : Nat) : Date :=
  let shifted := days + 719468
  let era := shifted / 146097
  let dayOfEra := shifted % 146097
  let yearOfEra := (dayOfEra - dayOfEra / 1460 + dayOfEra / 36524 - dayOfEra / 146096) / 365
  let dayOfYear := dayOfEra - (365 * yearOfEra + yearOfEra / 4 - yearOfEra / 100)
  let marchMonth := (5 * dayOfYear + 2) / 153
  let day := dayOfYear - (153 * marchMonth + 2) / 5 + 1
  let month := if marchMonth < 10 then marchMonth + 3 else marchMonth - 9
  ⟨era * 400 + yearOfEra + (if month ≤ 2 then 1 else 0), month, day⟩

/-- A point in time, in nanoseconds since the start of 1970. -/
structure Timestamp where
  /-- Nanoseconds since the start of 1970. -/
  nanos : Nat
  deriving DecidableEq, Repr

namespace Timestamp

/-- Whole seconds since the start of 1970. -/
def seconds (t : Timestamp) : Nat := t.nanos / 1000000000

/-- The nanoseconds past the last whole second. -/
def fraction (t : Timestamp) : Nat := t.nanos % 1000000000

/-- The fraction of a second with the fewest of three, six or nine digits that are exact. -/
def renderFraction (fraction : Nat) : List Char :=
  if fraction = 0 then []
  else if fraction % 1000000 = 0 then '.' :: padStart 3 '0' (decimal (fraction / 1000000))
  else if fraction % 1000 = 0 then '.' :: padStart 6 '0' (decimal (fraction / 1000))
  else '.' :: padStart 9 '0' (decimal fraction)

/-- The time of day as hours, minutes and seconds. -/
def renderClock (t : Timestamp) : String :=
  let ofDay := t.seconds % 86400
  let two (n : Nat) := padStart 2 '0' (decimal n)
  String.ofList (two (ofDay / 3600) ++ [':'] ++ two (ofDay / 60 % 60) ++ [':'] ++ two (ofDay % 60))

/-- The date and the time of day in universal time. -/
def render (t : Timestamp) : String :=
  let date := Date.ofDays (t.seconds / 86400)
  let two (n : Nat) := padStart 2 '0' (decimal n)
  String.ofList
      (padStart 4 '0' (decimal date.year) ++ ['-'] ++ two date.month ++ ['-'] ++ two date.day ++
        ['T']) ++
    t.renderClock ++ String.ofList (renderFraction t.fraction) ++ "Z"

example : render ⟨1700000000000001000⟩ = "2023-11-14T22:13:20.000001Z" := by decide +kernel

end Timestamp

end ProxyControl
