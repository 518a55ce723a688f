/-!
# Punycode

A way to write a label with characters outside ASCII in ASCII. First come the ASCII characters of
the label and a hyphen, unless there are none; then, as numbers of variable length, which character
goes where. The numbers count the places that are skipped, over all characters in ascending order.
-/

namespace ApiScribe.Uri.Punycode

/-! ## Numbers -/

/-- The value of a digit: 26 small letters, then ten digits. -/
def digitValue? (c : Char) : Option Nat :=
  if 'a' ≤ c ∧ c ≤ 'z' then some (c.toNat - 0x61)
  else if '0' ≤ c ∧ c ≤ '9' then some (c.toNat - 0x30 + 26)
  else none

/-- The threshold of the digit at position `k`; a smaller digit ends its number. -/
def threshold (k bias : Nat) : Nat :=
  if k ≤ bias then 1 else if bias + 26 ≤ k then 26 else k - bias

/-- Digits count less than this. -/
def weightLimit : Nat := 0x100000000

/-- Reads one number: `k` is the position of the next digit and `weight` what it counts. -/
def number? (bias : Nat) : Nat → Nat → Nat → List Char → Option (Nat × List Char)
  | _, _, _, [] => none
  | k, weight, sum, c :: rest =>
    match digitValue? c with
    | none => none
    | some digit =>
      let t := threshold k bias
      if digit < t then some (sum + digit * weight, rest)
      else if weightLimit ≤ weight * (36 - t) then none
      else number? bias (k + 36) (weight * (36 - t)) (sum + digit * weight) rest

theorem length_lt_of_number? {bias k weight sum n : Nat} {cs rest : List Char}
    (h : number? bias k weight sum cs = some (n, rest)) : rest.length < cs.length := by
  induction cs generalizing k weight sum with
  | nil => simp [number?] at h
  | cons c cs ih =>
    rw [number?] at h
    split at h
    · simp at h
    · dsimp only at h
      split at h
      · obtain ⟨-, rfl⟩ := Prod.mk.inj (Option.some.inj h)
        simp
      · split at h
        · simp at h
        · exact Nat.lt_succ_of_lt (ih h)

/-- Divides by 35 while a number is above 455, counting 36 for each time. -/
def scaleDown (delta steps : Nat) : Nat × Nat :=
  if 455 < delta then scaleDown (delta / 35) (steps + 36) else (delta, steps)
termination_by delta
decreasing_by omega

/-- The bias after a number, for the length that the label has then. -/
def adapt (delta length : Nat) (first : Bool) : Nat :=
  let start := if first then delta / 700 else delta / 2
  let (rest, steps) := scaleDown (start + start / length) 0
  steps + 36 * rest / (rest + 38)

/-! ## Labels -/

/-- Places the characters that the numbers of a text stand for. The last one placed was `code`, and
`index` is the place after it. -/
def placeAll (label : List Char) (code index bias : Nat) (cs : List Char) : Option (List Char) :=
  if cs.isEmpty then some label
  else
    match h : number? bias 36 1 0 cs with
    | none => none
    | some (delta, rest) =>
      let length := label.length + 1
      let next := code + (index + delta) / length
      let place := (index + delta) % length
      if next.isValidChar then
        placeAll (label.insertIdx place (Char.ofNat next)) next (place + 1)
          (adapt delta length (index == 0)) rest
      else none
termination_by cs.length
decreasing_by exact length_lt_of_number? h

/-- The ASCII characters of a label, and the numbers. There is at least one number, and no hyphen
after no characters. -/
def split? (cs : List Char) : Option (List Char × List Char) :=
  let numbers := (cs.reverse.takeWhile (· != '-')).reverse
  let plain := cs.take (cs.length - numbers.length)
  if numbers.isEmpty || plain.length == 1 then none else some (plain.dropLast, numbers)

/-- The label that a text stands for. -/
def decode? (cs : List Char) : Option (List Char) :=
  match split? cs with
  | some (plain, numbers) => placeAll plain 0x80 0 72 numbers
  | none => none

end ApiScribe.Uri.Punycode
