import ProxyControl.Timestamp

/-!
# Dates and times in documents

A document can hold a date, a time of day, or both, and a date with a time can say how far it is
from universal time. Fractions of a second are kept to the nanosecond; further digits are cut off.

## Main definitions

* `ClockTime`, `Offset`, `Datetime`: the values
* `Datetime.render`: the written form
* `Datetime.read?`: the value at the start of some text
* `Datetime.ofText?`: the value that all of some text is
-/

set_option autoImplicit false

namespace ProxyControl.Document

open Text

/-- What a reader finds at the start of some text, and the text after it. -/
abbrev Reader (α : Type) := List Char → Option (α × List Char)

/-- A time of day. -/
structure ClockTime where
  hour : Nat
  minute : Nat
  /-- The second, which may be a leap second. -/
  second : Nat
  nanosecond : Nat
  deriving DecidableEq, Repr

/-- The distance of a time from universal time. -/
inductive Offset where
  /-- No distance. -/
  | zulu
  /-- A number of minutes, counted to the east. -/
  | minutes (east : Int)
  deriving DecidableEq, Repr

/-- A date, a time of day, or both. -/
structure Datetime where
  date : Option Date
  /-- The time of day. -/
  time : Option ClockTime
  /-- The distance from universal time. -/
  offset : Option Offset
  deriving DecidableEq, Repr

/-! ## Writing -/

/-- A number with at least two digits. -/
def twoDigits (n : Nat) : List Char := padStart 2 '0' (decimal n)

/-- The written form of a date. -/
def dateChars (d : Date) : List Char :=
  padStart 4 '0' (decimal d.year) ++ ['-'] ++ twoDigits d.month ++ ['-'] ++ twoDigits d.day

/-- The written form of a time of day, without zeros at the end of its fraction. -/
def ClockTime.chars (t : ClockTime) : List Char :=
  twoDigits t.hour ++ [':'] ++ twoDigits t.minute ++ [':'] ++ twoDigits t.second ++
    if t.nanosecond = 0 then []
    else '.' :: dropEndWhile (· = '0') (padStart 9 '0' (decimal t.nanosecond))

/-- The written form of a distance. -/
def Offset.chars : Offset → List Char
  | .zulu => ['Z']
  | .minutes east =>
    (if east < 0 then '-' else '+') :: twoDigits (east.natAbs / 60) ++ [':'] ++
      twoDigits (east.natAbs % 60)

/-- The written form. -/
def Datetime.chars (d : Datetime) : List Char :=
  (d.date.map dateChars).getD [] ++ (if d.date.isSome && d.time.isSome then ['T'] else []) ++
    (d.time.map ClockTime.chars).getD [] ++ (d.offset.map Offset.chars).getD []

/-- The written form. -/
def Datetime.render (d : Datetime) : String := String.ofList d.chars

/-! ## Reading -/

/-- A number of exactly two digits within a range. -/
def readTwo (low high : Nat) : Reader Nat
  | a :: b :: rest =>
    let n := valueInBase 10 [a, b]
    if isDecimal a && isDecimal b && decide (low ≤ n) && decide (n ≤ high) then some (n, rest)
    else none
  | _ => none

/-- One given character. -/
def readChar (c : Char) : Reader Unit
  | d :: rest => if c = d then some ((), rest) else none
  | [] => none

/-- The number of days of a month. -/
def daysOfMonth (year month : Nat) : Nat :=
  if month = 2 then if year % 4 = 0 ∧ (year % 100 ≠ 0 ∨ year % 400 = 0) then 29 else 28
  else if month ∈ [4, 6, 9, 11] then 30
  else 31

/-- A date of the calendar. -/
def readDate : Reader Date
  | a :: b :: c :: d :: rest => do
    let year := valueInBase 10 [a, b, c, d]
    if !(isDecimal a && isDecimal b && isDecimal c && isDecimal d) then none
    let ((), rest) ← readChar '-' rest
    let (month, rest) ← readTwo 1 12 rest
    let ((), rest) ← readChar '-' rest
    let (day, rest) ← readTwo 1 (daysOfMonth year month) rest
    return (⟨year, month, day⟩, rest)
  | _ => none

/-- The nanoseconds that the digits of a fraction give, those after the ninth cut off. -/
def nanosOfDigits (digits : List Char) : Nat :=
  valueInBase 10 (padEnd 9 '0' (digits.take 9))

/-- A time of day. -/
def readClock : Reader ClockTime := fun cs => do
  let (hour, cs) ← readTwo 0 23 cs
  let ((), cs) ← readChar ':' cs
  let (minute, cs) ← readTwo 0 59 cs
  let ((), cs) ← readChar ':' cs
  let (second, cs) ← readTwo 0 60 cs
  match cs with
  | '.' :: rest =>
    let digits := rest.takeWhile isDecimal
    if digits = [] then none
    else some (⟨hour, minute, second, nanosOfDigits digits⟩, rest.dropWhile isDecimal)
  | _ => some (⟨hour, minute, second, 0⟩, cs)

/-- A distance from universal time, or none where no sign of one follows. -/
def readOffset? : Reader (Option Offset)
  | 'Z' :: rest => some (some .zulu, rest)
  | 'z' :: rest => some (some .zulu, rest)
  | c :: rest =>
    if c = '+' ∨ c = '-' then do
      let (hour, rest) ← readTwo 0 23 rest
      let ((), rest) ← readChar ':' rest
      let (minute, rest) ← readTwo 0 59 rest
      let east : Int := (hour * 60 + minute : Nat)
      return (some (.minutes (if c = '-' then -east else east)), rest)
    else some (none, c :: rest)
  | [] => some (none, [])

/-- Whether a time of day starts here, by its hour and colon. -/
def startsClock : List Char → Bool
  | a :: b :: ':' :: _ => (readTwo 0 23 [a, b]).isSome
  | _ => false

/-- Whether a date starts here, by its year and dash. -/
def startsDate : List Char → Bool
  | a :: b :: c :: d :: '-' :: _ => isDecimal a && isDecimal b && isDecimal c && isDecimal d
  | _ => false

/-- A time of day and perhaps a distance after a date. -/
def readRestOfDate (date : Date) (cs : List Char) : Option (Datetime × List Char) :=
  match cs with
  | [] => some (⟨some date, none, none⟩, [])
  | c :: rest =>
    if (c = 'T' ∨ c = 't' ∨ c = ' ') ∧ startsClock rest = true then do
      let (time, rest) ← readClock rest
      let (offset, rest) ← readOffset? rest
      return (⟨some date, some time, offset⟩, rest)
    else some (⟨some date, none, none⟩, cs)

/-- The date, time of day or both at the start of some text that `startsDate` or `startsClock`. -/
def Datetime.read? : Reader Datetime := fun cs =>
  if startsDate cs then do
    let (date, rest) ← readDate cs
    readRestOfDate date rest
  else do
    let (time, rest) ← readClock cs
    return (⟨none, some time, none⟩, rest)

/-- The date, time of day or both that all of some text is. -/
def Datetime.ofText? (text : String) : Option Datetime :=
  match Datetime.read? text.toList with
  | some (d, []) => some d
  | _ => none

example : (Datetime.ofText? "1979-05-27 07:32:00.50z").map Datetime.render =
    some "1979-05-27T07:32:00.5Z" := by decide +kernel

end ProxyControl.Document
