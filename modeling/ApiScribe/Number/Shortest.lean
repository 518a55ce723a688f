import ApiScribe.Number.Binary64

/-!
# Shortest decimals

The decimal with the fewest digits that reads back as a given double, and of several such decimals
the nearest one. For each digit count the two decimals next to the value are tested against the
interval of reals that round to it; the first count with a hit wins.

The interval reaches half way to the neighbouring doubles. Below a power of two the lower neighbour
is only half as far away. Its ends belong to it exactly when the significand is even, because a half
rounds to the even neighbour.
-/

namespace ApiScribe

/-- A decimal `digits · 10 ^ exponent`. -/
structure Decimal where
  /-- The digits, as one number. -/
  digits : Nat
  /-- The place of the last digit. -/
  exponent : Int
deriving DecidableEq, Repr

namespace Decimal

/-- Drops trailing zeros, at most as many as the fuel says. -/
def dropZeros : Nat → Decimal → Decimal
  | 0, d => d
  | fuel + 1, d =>
    if d.digits % 10 = 0 ∧ d.digits ≠ 0 then dropZeros fuel ⟨d.digits / 10, d.exponent + 1⟩ else d

end Decimal

namespace Binary64

/-- The number of decimal digits of a positive integer. -/
def digitCount (n : Nat) : Nat :=
  (Nat.toDigits 10 n).length

/-- The greatest `e` with `10 ^ e ≤ num / den`, for positive arguments. -/
def floorLog10 (num den : Nat) : Int :=
  if den ≤ num then (digitCount (num / den) : Int) - 1
  else -(digitCount ((den - 1) / num) : Int)

/-- The value and the ends of its rounding interval, as three numerators over one denominator. -/
structure RoundingInterval where
  /-- Numerator of the lower end. -/
  low : Nat
  /-- Numerator of the value. -/
  value : Nat
  /-- Numerator of the upper end. -/
  high : Nat
  /-- The common denominator. -/
  den : Nat
  /-- Whether the ends round to the value. -/
  closed : Bool

/-- The reals that round to the absolute value of a finite double. -/
def roundingInterval (x : Binary64) : RoundingInterval :=
  let m := x.significand
  let q := x.scale - 2
  let up := Nat.pow 2 q.toNat
  let belowPowerOfTwo := x.fractionField = 0 ∧ 1 < x.exponentField
  { low := (4 * m - if belowPowerOfTwo then 1 else 2) * up
    value := 4 * m * up
    high := (4 * m + 2) * up
    den := Nat.pow 2 (-q).toNat
    closed := m % 2 = 0 }

namespace RoundingInterval

/-- Whether `digits · 10 ^ exponent` rounds to the value. -/
def contains (i : RoundingInterval) (d : Decimal) : Bool :=
  let num := d.digits * Nat.pow 10 d.exponent.toNat * i.den
  let unit := Nat.pow 10 (-d.exponent).toNat
  if i.closed then i.low * unit ≤ num && num ≤ i.high * unit
  else i.low * unit < num && num < i.high * unit

/-- The decimal with at most `count` digits that rounds to the value and is nearest to it, a tie
going to the even digit. -/
def nearest? (i : RoundingInterval) (count : Nat) : Option Decimal :=
  let place := floorLog10 i.value i.den - (count : Int) + 1
  let num := i.value * Nat.pow 10 (-place).toNat
  let unit := i.den * Nat.pow 10 place.toNat
  let below : Decimal := ⟨num / unit, place⟩
  let above : Decimal := ⟨num / unit + 1, place⟩
  let twice := 2 * (num % unit)
  match i.contains below, i.contains above with
  | true, true =>
    if twice < unit then some below
    else if unit < twice then some above
    else if below.digits % 2 = 0 then some below else some above
  | true, false => some below
  | false, true => some above
  | false, false => none

end RoundingInterval

/-- The shortest decimal that reads back as the absolute value of a finite double. Seventeen digits
always suffice. -/
def shortest (x : Binary64) : Decimal :=
  if x.significand = 0 then ⟨0, 0⟩
  else
    let interval := x.roundingInterval
    match (List.range' 1 17).findSome? interval.nearest? with
    | some d => d.dropZeros 20
    | none => ⟨x.significand, x.scale⟩

/-- How a double is written: the greatest and the least decimal exponent that is written out in
places. Beyond them the exponent is written, always with its sign. -/
structure Notation where
  /-- The greatest exponent written in places. -/
  greatest : Int
  /-- The least exponent written in places. -/
  least : Int

/-- Digits before and after the point, with at least one on each side. -/
def inPlaces (digits : List Char) (exponent : Int) : List Char :=
  if exponent < 0 then
    '0' :: '.' :: (List.replicate (-exponent - 1).toNat '0' ++ digits)
  else
    let whole := exponent.toNat + 1
    let before := digits.take whole
    let after := digits.drop whole
    before ++ List.replicate (whole - before.length) '0' ++
      '.' :: (if after.isEmpty then ['0'] else after)

/-- One digit, the point and the other digits if there are any, and the exponent with its sign. -/
def withExponent (digits : List Char) (exponent : Int) : List Char :=
  let mantissa :=
    match digits with
    | [] => []
    | [d] => [d]
    | d :: rest => d :: '.' :: rest
  mantissa ++ 'e' :: (if exponent < 0 then '-' else '+') :: Nat.toDigits 10 exponent.natAbs

/-- The text of a finite double under a notation. -/
def render (n : Notation) (x : Binary64) : String :=
  let d := x.shortest
  let digits := Nat.toDigits 10 d.digits
  let exponent := d.exponent + (digits.length : Int) - 1
  let unsigned :=
    if n.least ≤ exponent ∧ exponent ≤ n.greatest then inPlaces digits exponent
    else withExponent digits exponent
  String.ofList (if x.isNegative then '-' :: unsigned else unsigned)

end Binary64

end ApiScribe
