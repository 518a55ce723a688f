/-!
# Digits

The numbers that digits write, in any base up to sixteen.
-/

namespace ApiScribe.Text

/-- The value of a hexadecimal digit, of either case. -/
def hexValue? (c : Char) : Option Nat :=
  if '0' ≤ c ∧ c ≤ '9' then some (c.toNat - 0x30)
  else if 'a' ≤ c ∧ c ≤ 'f' then some (c.toNat - 0x57)
  else if 'A' ≤ c ∧ c ≤ 'F' then some (c.toNat - 0x37)
  else none

/-- The number that digits write in a base, if all of them are digits of it. -/
def numberIn? (base : Nat) (digits : List Char) : Option Nat :=
  digits.foldl
    (fun n c ↦ n.bind fun n ↦ (hexValue? c).bind fun d ↦
      if d < base then some (n * base + d) else none)
    (some 0)

end ApiScribe.Text
