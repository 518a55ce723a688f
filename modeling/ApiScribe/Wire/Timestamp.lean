/-!
# Points in time

A point in time with the offset of the clock that it was read from, and its text as a date, a time
and an offset. The date is that of the proleptic Gregorian calendar. The seconds carry as many
decimals as they need, in groups of three. A leap second is a second with more than a second's worth
of nanoseconds.
-/

namespace ApiScribe

/-- A point in time on a clock. -/
structure Timestamp where
  /-- Seconds since the start of 1970. -/
  seconds : Int
  /-- Nanoseconds in the second; from `10 ^ 9` on in a leap second. -/
  nanos : Nat
  /-- How far the clock is ahead, in seconds. -/
  offset : Int
deriving DecidableEq, Repr

namespace Timestamp

/-- A day of the calendar. -/
structure Date where
  year : Int
  /-- The month, from 1. -/
  month : Nat
  /-- The day of the month, from 1. -/
  day : Nat
deriving DecidableEq, Repr

/-- The day that lies a number of days after the first of January 1970. The year is taken to start
in March, so that the leap day comes last, and counted within periods of 400 years. -/
def dateOf (days : Int) : Date :=
  let shifted := days + 719468
  let period := shifted.fdiv 146097
  let dayOfPeriod := (shifted.fmod 146097).toNat
  let yearOfPeriod :=
    (dayOfPeriod - dayOfPeriod / 1460 + dayOfPeriod / 36524 - dayOfPeriod / 146096) / 365
  let dayOfYear := dayOfPeriod - (365 * yearOfPeriod + yearOfPeriod / 4 - yearOfPeriod / 100)
  let marchMonth := (5 * dayOfYear + 2) / 153
  let month := if marchMonth < 10 then marchMonth + 3 else marchMonth - 9
  { year := (yearOfPeriod : Int) + period * 400 + (if month ≤ 2 then 1 else 0)
    month := month
    day := dayOfYear - (153 * marchMonth + 2) / 5 + 1 }

/-- The decimal digits of a number, with zeros in front up to a width. -/
def padded (width n : Nat) : String :=
  let digits := Nat.toDigits 10 n
  String.ofList (List.replicate (width - digits.length) '0' ++ digits)

/-- Four digits for the years 0 to 9999; other years carry their sign. -/
def yearText (year : Int) : String :=
  if 0 ≤ year ∧ year ≤ 9999 then padded 4 year.toNat
  else (if year < 0 then "-" else "+") ++ padded 4 year.natAbs

/-- No decimals, or three, six or nine, whichever is the least that loses nothing. -/
def fractionText (nanos : Nat) : String :=
  if nanos = 0 then ""
  else if nanos % 1000000 = 0 then "." ++ padded 3 (nanos / 1000000)
  else if nanos % 1000 = 0 then "." ++ padded 6 (nanos / 1000)
  else "." ++ padded 9 nanos

/-- The offset in hours and minutes, rounded to the nearest minute, a half away from zero. Only the
offset zero is `Z`. -/
def offsetText (offset : Int) : String :=
  if offset = 0 then "Z"
  else
    let minutes := (offset.natAbs + 30) / 60
    (if offset < 0 then "-" else "+") ++ padded 2 (minutes / 60) ++ ":" ++ padded 2 (minutes % 60)

/-- The text of a point in time, as its own clock shows it. -/
def text (t : Timestamp) : String :=
  let here := t.seconds + t.offset
  let date := dateOf (here.fdiv 86400)
  let ofDay := (here.fmod 86400).toNat
  let leap := t.nanos / 1000000000
  yearText date.year ++ "-" ++ padded 2 date.month ++ "-" ++ padded 2 date.day ++ "T" ++
    padded 2 (ofDay / 3600) ++ ":" ++ padded 2 (ofDay / 60 % 60) ++ ":" ++
    padded 2 (ofDay % 60 + leap) ++ fractionText (t.nanos % 1000000000) ++ offsetText t.offset

end Timestamp

end ApiScribe
