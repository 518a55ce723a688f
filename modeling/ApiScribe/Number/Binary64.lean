/-!
# Double-precision numbers

A double is kept as its 64 bits, and its value is read off them as `± significand · 2 ^ scale` in
exact integer arithmetic. Nothing here goes through machine floating point, so every statement about
a number is a statement about integers.
-/

namespace ApiScribe

/-- A number in the IEEE 754 double format, given by its bits. -/
structure Binary64 where
  /-- Sign, eleven bits of exponent, fifty-two bits of fraction. -/
  bits : UInt64
deriving DecidableEq, Repr

namespace Binary64

/-- Whether the sign bit is set. -/
def isNegative (x : Binary64) : Bool :=
  x.bits.toNat / Nat.pow 2 63 == 1

def exponentField (x : Binary64) : Nat :=
  x.bits.toNat / Nat.pow 2 52 % Nat.pow 2 11

def fractionField (x : Binary64) : Nat :=
  x.bits.toNat % Nat.pow 2 52

/-- Whether the number is neither infinite nor `NaN`. -/
def isFinite (x : Binary64) : Bool :=
  x.exponentField != 2047

/-- Whether the bits stand for no number at all. -/
def isNaN (x : Binary64) : Bool :=
  x.exponentField == 2047 && x.fractionField != 0

/-- The integer part of `significand · 2 ^ scale`. -/
def significand (x : Binary64) : Nat :=
  if x.exponentField = 0 then x.fractionField else x.fractionField + Nat.pow 2 52

/-- The power of two in `significand · 2 ^ scale`. -/
def scale (x : Binary64) : Int :=
  if x.exponentField = 0 then -1074 else (x.exponentField : Int) - 1075

/-- The number with the given fields. -/
def ofFields (negative : Bool) (exponent fraction : Nat) : Binary64 :=
  ⟨UInt64.ofNat ((if negative then Nat.pow 2 63 else 0) + exponent * Nat.pow 2 52 + fraction)⟩

theorem exponentField_ofFields (negative : Bool) {exponent fraction : Nat} (he : exponent < 2048)
    (hf : fraction < Nat.pow 2 52) :
    (ofFields negative exponent fraction).exponentField = exponent := by
  have hsign : (if negative then Nat.pow 2 63 else 0) ≤ 2 ^ 63 := by
    cases negative <;> decide
  have hdvd : (if negative then Nat.pow 2 63 else 0) % 2 ^ 63 = 0 := by
    cases negative <;> decide
  generalize hs : (if negative then Nat.pow 2 63 else 0) = s at *
  rw [exponentField, ofFields, hs, UInt64.toNat_ofNat']
  simp only [Nat.pow_eq] at hf ⊢
  omega

/-! ## Rounding -/

/-- The quotient rounded to the nearest integer, a half to the even neighbour. -/
def roundQuotient (num den : Nat) : Nat :=
  let quotient := num / den
  let twice := 2 * (num % den)
  if twice < den then quotient
  else if den < twice then quotient + 1
  else if quotient % 2 = 0 then quotient else quotient + 1

/-- The greatest `e` with `2 ^ e ≤ num / den`, for positive arguments. -/
def floorLog2 (num den : Nat) : Int :=
  let estimate : Int := (Nat.log2 num : Int) - Nat.log2 den
  if den * Nat.pow 2 estimate.toNat ≤ num * Nat.pow 2 (-estimate).toNat then estimate
  else estimate - 1

/-- The double nearest to `± num / den`, a half to the even neighbour. `none` when the quotient is
too large for a finite double. -/
def ofRatio? (negative : Bool) (num den : Nat) : Option Binary64 :=
  if num = 0 then some (ofFields negative 0 0)
  else
    let scale : Int := max (-1074) (floorLog2 num den - 52)
    let m := roundQuotient (num * Nat.pow 2 (-scale).toNat) (den * Nat.pow 2 scale.toNat)
    -- Below `2 ^ 52` the number is subnormal; at `2 ^ 53` the carry moves into the exponent.
    let magnitude := if m < Nat.pow 2 52 then m else (scale + 1074).toNat * Nat.pow 2 52 + m
    if magnitude < 2047 * Nat.pow 2 52 then
      some (ofFields negative 0 magnitude)
    else none

/-- The double nearest to `± digits · 10 ^ exponent`. `none` when that is too large. -/
def ofDecimal? (negative : Bool) (digits : Nat) (exponent : Int) : Option Binary64 :=
  if digits = 0 then some (ofFields negative 0 0)
  else
    let size : Int := (Nat.toDigits 10 digits).length
    if exponent + size < -400 then some (ofFields negative 0 0)
    else if exponent + size > 400 then none
    else ofRatio? negative (digits * Nat.pow 10 exponent.toNat) (Nat.pow 10 (-exponent).toNat)

/-! ## Single precision -/

/-- The exponent field of a single-precision number, given by its 32 bits. -/
def singleExponent (bits : UInt32) : Nat :=
  bits.toNat / Nat.pow 2 23 % Nat.pow 2 8

/-- The double with the same value as a single-precision number, given by its 32 bits. -/
def ofSingle (bits : UInt32) : Binary64 :=
  let n := bits.toNat
  let negative := n / Nat.pow 2 31 == 1
  let exponent := singleExponent bits
  let fraction := n % Nat.pow 2 23
  if exponent = 255 then ofFields negative 2047 (fraction * Nat.pow 2 29)
  else if exponent = 0 then
    if fraction = 0 then ofFields negative 0 0
    else
      let top := Nat.log2 fraction
      ofFields negative (top + 874) ((fraction - Nat.pow 2 top) * Nat.pow 2 (52 - top))
  else ofFields negative (exponent + 896) (fraction * Nat.pow 2 29)

theorem isFinite_ofSingle (bits : UInt32) :
    (ofSingle bits).isFinite = (singleExponent bits != 255) := by
  have hexp : singleExponent bits < 2 ^ 8 := Nat.mod_lt _ (by decide)
  have hfrac : bits.toNat % 2 ^ 23 < 2 ^ 23 := Nat.mod_lt _ (by decide)
  simp only [ofSingle, Nat.pow_eq]
  generalize bits.toNat % 2 ^ 23 = fraction at hfrac ⊢
  generalize singleExponent bits = exponent at hexp ⊢
  have hshifted : fraction * 2 ^ 29 < Nat.pow 2 52 := by
    rw [Nat.pow_eq]
    omega
  rw [isFinite]
  split
  · next h =>
    rw [exponentField_ofFields _ (by decide) hshifted, h]
    rfl
  · next h =>
    have hne : (exponent != 255) = true := bne_iff_ne.2 h
    split
    · split
      · rw [exponentField_ofFields _ (by decide) (by decide), hne]
        rfl
      · next hpos =>
        -- A subnormal number has a leading bit, which goes into the exponent.
        have htop : Nat.log2 fraction < 23 := (Nat.log2_lt hpos).2 hfrac
        have hlead : fraction < 2 ^ Nat.log2 fraction * 2 := Nat.lt_log2_self
        have hbound : (fraction - 2 ^ Nat.log2 fraction) * 2 ^ (52 - Nat.log2 fraction) < 2 ^ 52 :=
          calc (fraction - 2 ^ Nat.log2 fraction) * 2 ^ (52 - Nat.log2 fraction)
            _ < 2 ^ Nat.log2 fraction * 2 ^ (52 - Nat.log2 fraction) :=
              Nat.mul_lt_mul_of_pos_right (by omega) (Nat.two_pow_pos _)
            _ = 2 ^ 52 := by rw [← Nat.pow_add, Nat.add_sub_cancel' (by omega)]
        rw [exponentField_ofFields _ (by omega) hbound, hne, bne_iff_ne]
        omega
    · rw [exponentField_ofFields _ (by omega) hshifted, hne, bne_iff_ne]
      omega

end Binary64

end ApiScribe
