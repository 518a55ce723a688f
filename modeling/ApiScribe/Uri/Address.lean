import ApiScribe.Uri.Percent

/-!
# Numeric hosts

IPv4 addresses in all the forms that a URI admits (fewer parts, octal and hexadecimal parts), and
IPv6 addresses in brackets. Both have one normal form.
-/

namespace ApiScribe.Uri

/-! ## IPv4 -/

/-- The number that a part of an IPv4 address writes: hexadecimal after `0x`, octal after a zero. -/
def ipv4Number? : List Char → Option Nat
  | [] => none
  | ['0'] => some 0
  | '0' :: c :: rest =>
    if c = 'x' ∨ c = 'X' then Text.numberIn? 16 rest else Text.numberIn? 8 (c :: rest)
  | cs => Text.numberIn? 10 cs

/-- The parts of a host between its dots, without an empty part at the end. -/
def hostParts (host : List Char) : List (List Char) :=
  let parts := host.splitOn '.'
  if parts.getLast? = some [] ∧ 1 < parts.length then parts.dropLast else parts

/-- Whether the last part of a host is a number, so that the host has to be an IPv4 address. -/
def endsInNumber (host : List Char) : Bool :=
  match (hostParts host).getLast? with
  | some last => !last.isEmpty && (last.all Char.isDigit || (ipv4Number? last).isSome)
  | none => false

/-- The address that numbers make: each but the last is one byte, the last fills the rest. -/
def ipv4OfNumbers? (bytes : List Nat) (last : Nat) : Option Nat :=
  if bytes.all (· < 256) && last < Nat.pow 256 (4 - bytes.length) then
    some (bytes.foldl (fun n b ↦ n * 256 + b) 0 * Nat.pow 256 (4 - bytes.length) + last)
  else none

def ipv4? (host : List Char) : Option Nat := do
  let parts := hostParts host
  if 4 < parts.length then none
  let numbers ← parts.mapM ipv4Number?
  ipv4OfNumbers? numbers.dropLast (← numbers.getLast?)

/-- Four bytes in decimal, with dots between them. -/
def ipv4Text (n : Nat) : String :=
  ".".intercalate ([n / 16777216 % 256, n / 65536 % 256, n / 256 % 256, n % 256].map toString)

/-! ## IPv6 -/

/-- A byte in decimal without zeros in front. -/
def decimalByte? (digits : List Char) : Option Nat :=
  if digits.isEmpty ∨ (digits.head? = some '0' ∧ digits.length ≠ 1) then none
  else (Text.numberIn? 10 digits).filter (· < 256)

/-- The two pieces that an IPv4 address at the end of an IPv6 address fills. -/
def trailingIpv4? (cs : List Char) : Option (List Nat) :=
  match (cs.splitOn '.').mapM decimalByte? with
  | some [a, b, c, d] => some [a * 256 + b, c * 256 + d]
  | _ => none

/-- The pieces before and, once two colons have been met, after the zeros that they stand for. -/
structure Ipv6Pieces where
  /-- The pieces before the zeros. -/
  before : List Nat
  /-- The pieces after the zeros. -/
  after : Option (List Nat)

namespace Ipv6Pieces

/-- How many pieces there are at least; two colons stand for one or more. -/
def count (p : Ipv6Pieces) : Nat :=
  p.before.length + (p.after.map (·.length + 1)).getD 0

def push (p : Ipv6Pieces) (more : List Nat) : Ipv6Pieces :=
  match p.after with
  | some after => { p with after := some (after ++ more) }
  | none => { p with before := p.before ++ more }

/-- All eight pieces, if the zeros make up their number. -/
def full? (p : Ipv6Pieces) : Option (List Nat) :=
  match p.after with
  | some after =>
    some (p.before ++ List.replicate (8 - p.before.length - after.length) 0 ++ after)
  | none => if p.before.length = 8 then some p.before else none

end Ipv6Pieces

/-- Reads the pieces of an IPv6 address. -/
def ipv6Pieces? : Nat → Ipv6Pieces → List Char → Option Ipv6Pieces
  | _, p, [] => some p
  | 0, _, _ => none
  | fuel + 1, p, cs =>
    if p.count = 8 then none
    else if cs.head? = some ':' then
      if p.after.isSome then none else ipv6Pieces? fuel { p with after := some [] } cs.tail
    else
      let digits := (cs.take 4).takeWhile fun c ↦ (Text.hexValue? c).isSome
      let rest := cs.drop digits.length
      match rest with
      | '.' :: _ =>
        if digits.isEmpty ∨ 6 < p.count then none else (trailingIpv4? cs).map p.push
      | _ => do
        let piece ← Text.numberIn? 16 digits
        match rest with
        | [] => some (p.push [piece])
        | ':' :: rest => if rest.isEmpty then none else ipv6Pieces? fuel (p.push [piece]) rest
        | _ => none

/-- The eight pieces of the IPv6 address that a text writes. -/
def ipv6? (cs : List Char) : Option (List Nat) := do
  let pieces ←
    match cs with
    | ':' :: ':' :: rest => ipv6Pieces? (cs.length + 1) ⟨[], some []⟩ rest
    | ':' :: _ => none
    | _ => ipv6Pieces? (cs.length + 1) ⟨[], none⟩ cs
  pieces.full?

/-- The length of the run of zeros at the start of a list. -/
def zeroRun (pieces : List Nat) : Nat :=
  (pieces.takeWhile (· == 0)).length

/-- The start and the length of the first longest run of zeros, from index `i` on. -/
def longestZeros : Nat → List Nat → Nat × Nat
  | _, [] => (0, 0)
  | i, piece :: rest =>
    let here := zeroRun (piece :: rest)
    let (start, length) := longestZeros (i + 1) rest
    if length ≤ here then (i, here) else (start, length)

/-- Pieces in hexadecimal, with colons between them. -/
def piecesText (pieces : List Nat) : String :=
  ":".intercalate (pieces.map fun n ↦ String.ofList (Nat.toDigits 16 n))

/-- An IPv6 address, the first longest run of two or more zeros written as two colons. -/
def ipv6Text (pieces : List Nat) : String :=
  let (start, length) := longestZeros 0 pieces
  if length < 2 then piecesText pieces
  else piecesText (pieces.take start) ++ "::" ++ piecesText (pieces.drop (start + length))

end ApiScribe.Uri
