/-!
# Globally unique identifiers

An identifier is a number of 128 bits, written as 32 hexadecimal digits in five groups.
-/

namespace ApiScribe

/-- A number of 128 bits. -/
structure Guid where
  /-- The number. -/
  value : BitVec 128
deriving DecidableEq, Repr

namespace Guid

/-- The lowest hexadecimal digits of a number, the highest of them first. -/
def hexDigits : Nat → Nat → List Char
  | 0, _ => []
  | count + 1, n => hexDigits count (n / 16) ++ [Nat.digitChar (n % 16)]

/-- Groups of 8, 4, 4, 4 and 12 digits, in small letters. -/
def text (g : Guid) : String :=
  let digits := hexDigits 32 g.value.toNat
  let group (start length : Nat) := String.ofList ((digits.drop start).take length)
  "-".intercalate [group 0 8, group 8 4, group 12 4, group 16 4, group 20 12]

end Guid

end ApiScribe
