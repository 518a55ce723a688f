import ApiScribe.Text.Digits
import ApiScribe.Text.Split
import ApiScribe.Toml.Value

/-!
# Plain values of settings files

Truth values, numbers, dates and times. Each is one run of letters, digits and a few marks, so it is
cut off first and then read as a whole.
-/

namespace ApiScribe.Toml

/-! ## Numbers -/

/-- The sign in front of a number, and the rest. -/
def splitSign : List Char → Bool × List Char
  | '-' :: rest => (true, rest)
  | '+' :: rest => (false, rest)
  | cs => (false, cs)

/-- The digits of a group of digits, in which single underscores may stand between digits. -/
def ungroup? (isDigit : Char → Bool) (cs : List Char) : Option (List Char) :=
  let groups := cs.splitOn '_'
  if groups.all fun g ↦ !g.isEmpty && g.all isDigit then some groups.flatten else none

/-- The digits of a whole number, without needless zeros in front. -/
def whole? (cs : List Char) : Option (List Char) :=
  (ungroup? Char.isDigit cs).filter fun ds ↦ ds.head? != some '0' || ds.length == 1

/-- An integer, if it has 64 bits. -/
def int64? (n : Int) : Option Toml :=
  if -9223372036854775808 ≤ n ∧ n ≤ 9223372036854775807 then some (.int n) else none

/-- An integer in decimal, with or without a sign. -/
def decimal? (cs : List Char) : Option Toml := do
  let (negative, digits) := splitSign cs
  let n ← Text.numberIn? 10 (← whole? digits)
  int64? (if negative then -n else n)

/-- An integer in another base, after its mark. -/
def based? (base : Nat) (cs : List Char) : Option Toml := do
  let digits ← ungroup? (fun c ↦ (Text.hexValue? c).isSome) cs
  let n ← Text.numberIn? base digits
  int64? n

def integer? : List Char → Option Toml
  | '0' :: 'x' :: rest => based? 16 rest
  | '0' :: 'o' :: rest => based? 8 rest
  | '0' :: 'b' :: rest => based? 2 rest
  | cs => decimal? cs

/-- The exponent after its mark. -/
def exponent? (cs : List Char) : Option Int := do
  let (negative, digits) := splitSign cs
  let n ← Text.numberIn? 10 (← ungroup? Char.isDigit digits)
  return if negative then -n else n

/-- A number that is too large is infinity below zero, and an error above it. -/
def finiteOrLow? (negative : Bool) : Option Binary64 → Option Toml
  | some x => some (.float x)
  | none => if negative then some (.float (.ofFields true 2047 0)) else none

/-- A number with a fraction, an exponent or both. -/
def fractional? (cs : List Char) : Option Toml := do
  let (negative, cs) := splitSign cs
  let (mantissa, exponent) := Text.cutAt (fun c ↦ c == 'e' || c == 'E') cs
  let (whole, fraction) := Text.cutAt (· == '.') mantissa
  if exponent.isNone ∧ fraction.isNone then none
  let whole ← whole? whole
  let fraction ← (fraction.map (ungroup? Char.isDigit)).getD (some [])
  let exponent ← (exponent.map exponent?).getD (some 0)
  let digits ← Text.numberIn? 10 (whole ++ fraction)
  finiteOrLow? negative (Binary64.ofDecimal? negative digits (exponent - fraction.length))

/-- Infinity, or what is no number. -/
def special? (cs : List Char) : Option Toml :=
  let (negative, word) := splitSign cs
  if word = "inf".toList then some (.float (.ofFields negative 2047 0))
  else if word = "nan".toList then some (.float (.ofFields negative 2047 (Nat.pow 2 51)))
  else none

/-! ## Dates and times -/

def daysIn (year month : Nat) : Nat :=
  if month = 2 then
    if (year % 4 = 0 ∧ year % 100 ≠ 0) ∨ year % 400 = 0 then 29 else 28
  else if month = 4 ∨ month = 6 ∨ month = 9 ∨ month = 11 then 30
  else 31

/-- Whether ten characters are a day of the calendar. -/
def isDate : List Char → Bool
  | [y, e, a, r, '-', m, n, '-', d, t] =>
    match Text.numberIn? 10 [y, e, a, r], Text.numberIn? 10 [m, n], Text.numberIn? 10 [d, t] with
    | some year, some month, some day =>
      1 ≤ month && month ≤ 12 && 1 ≤ day && day ≤ daysIn year month
    | _, _, _ => false
  | _ => false

/-- Whether two digits write a number up to a bound. -/
def upTo (bound : Nat) (a b : Char) : Bool :=
  ((Text.numberIn? 10 [a, b]).filter (· ≤ bound)).isSome

/-- What follows the fraction of a second, if there is one. -/
def afterFraction? : List Char → Option (List Char)
  | '.' :: rest =>
    if (rest.takeWhile Char.isDigit).isEmpty then none else some (rest.dropWhile Char.isDigit)
  | cs => some cs

/-- What follows a time of day. -/
def afterTime? : List Char → Option (List Char)
  | h :: o :: ':' :: m :: i :: ':' :: s :: e :: rest =>
    if upTo 23 h o && upTo 59 m i && upTo 60 s e then afterFraction? rest else none
  | _ => none

/-- Whether the characters after a time say how far its clock is ahead, or nothing. -/
def isOffset : List Char → Bool
  | [] => true
  | [c] => c == 'Z' || c == 'z'
  | [sign, h, o, ':', m, i] => (sign == '+' || sign == '-') && upTo 23 h o && upTo 59 m i
  | _ => false

/-- Whether characters are a date, a time or both. -/
def isMoment (cs : List Char) : Bool :=
  if isDate (cs.take 10) then
    match cs.drop 10 with
    | [] => true
    | separator :: rest =>
      ['T', 't', ' '].contains separator && ((afterTime? rest).map isOffset).getD false
  else afterTime? cs == some []

/-! ## Runs -/

/-- Whether a character may stand in a plain value. -/
def isToken (c : Char) : Bool :=
  c.isAlphanum || ['+', '-', '_', '.', ':'].contains c

/-- Whether a time of day seems to follow a date and a blank. -/
def timeFollows : List Char → Bool
  | ' ' :: h :: o :: ':' :: _ => h.isDigit && o.isDigit
  | _ => false

/-- The run of a plain value, and what follows. A date and a time may have a blank between them. -/
def splitToken (cs : List Char) : List Char × List Char :=
  let run := cs.takeWhile isToken
  let rest := cs.drop run.length
  if isDate run && timeFollows rest then
    let time := rest.tail.takeWhile isToken
    (run ++ ' ' :: time, rest.drop (time.length + 1))
  else (run, rest)

/-- The plain value that a run writes. -/
def scalar? (run : List Char) : Option Toml :=
  if run = "true".toList then some (.bool true)
  else if run = "false".toList then some (.bool false)
  else if isMoment run then some (.moment (String.ofList run))
  else (integer? run).or ((fractional? run).or (special? run))

end ApiScribe.Toml
