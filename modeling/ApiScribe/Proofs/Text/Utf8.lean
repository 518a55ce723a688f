/-!
# Reading UTF-8

Bytes are read one by one. The first byte of a character says how many follow it and which of them
may come next; every byte that follows adds six bits. Bytes that are no character are read as a
replacement character: a byte that cannot start one, or a character that breaks off. The byte at
which it does starts anew.

A text is read back from its bytes (`read_flatMap_utf8EncodeChar`).
-/

namespace ApiScribe.Text.Utf8

/-- A character of which the first bytes have been read. -/
structure Pending where
  /-- How many bytes follow the next one. -/
  more : Nat
  /-- The bits read so far. -/
  bits : Nat
  /-- The least byte that may come next. -/
  low : Nat
  /-- The greatest byte that may come next. -/
  high : Nat
deriving DecidableEq, Repr

/-- What stands for bytes that are no character. -/
def replacement : Char := '\ufffd'

/-- Reads the first byte of a character. The bounds on the second byte rule out what has a shorter
form, surrogates, and what lies beyond the last character. -/
def start (n : Nat) : List Char × Option Pending :=
  if n ≤ 0x7f then ([Char.ofNat n], none)
  else if 0xc2 ≤ n ∧ n ≤ 0xdf then ([], some ⟨0, n % 32, 0x80, 0xbf⟩)
  else if 0xe0 ≤ n ∧ n ≤ 0xef then
    ([], some ⟨1, n % 16, if n = 0xe0 then 0xa0 else 0x80, if n = 0xed then 0x9f else 0xbf⟩)
  else if 0xf0 ≤ n ∧ n ≤ 0xf4 then
    ([], some ⟨2, n % 8, if n = 0xf0 then 0x90 else 0x80, if n = 0xf4 then 0x8f else 0xbf⟩)
  else ([replacement], none)

/-- Reads a byte: the characters that end with it, and the one that is pending afterwards. -/
def step : Option Pending → Nat → List Char × Option Pending
  | none, n => start n
  | some p, n =>
    if p.low ≤ n ∧ n ≤ p.high then
      let bits := p.bits * 64 + n % 64
      match p.more with
      | 0 => ([Char.ofNat bits], none)
      | more + 1 => ([], some ⟨more, bits, 0x80, 0xbf⟩)
    else (replacement :: (start n).1, (start n).2)

/-- Reads bytes, where a character may be pending. -/
def read : Option Pending → List UInt8 → List Char
  | none, [] => []
  | some _, [] => [replacement]
  | pending, b :: rest => (step pending b.toNat).1 ++ read (step pending b.toNat).2 rest

/-! ## The bytes of a character -/

variable {n more bits low high : Nat} {rest : List UInt8}

theorem read_ofNat_cons (pending : Option Pending) (hbyte : n < 256) :
    read pending (UInt8.ofNat n :: rest) = (step pending n).1 ++ read (step pending n).2 rest := by
  rw [read, UInt8.toNat_ofNat_of_lt' hbyte]

theorem read_single (h : n ≤ 0x7f) :
    read none (UInt8.ofNat n :: rest) = Char.ofNat n :: read none rest := by
  rw [read_ofNat_cons none (by omega), step, start, if_pos h]
  rfl

theorem read_first_of_two (hlow : 0xc2 ≤ n) (hhigh : n ≤ 0xdf) :
    read none (UInt8.ofNat n :: rest) = read (some ⟨0, n % 32, 0x80, 0xbf⟩) rest := by
  rw [read_ofNat_cons none (by omega), step, start, if_neg (by omega), if_pos ⟨hlow, hhigh⟩]
  rfl

theorem read_first_of_three (hlow : 0xe0 ≤ n) (hhigh : n ≤ 0xef) :
    read none (UInt8.ofNat n :: rest) =
      read (some ⟨1, n % 16, if n = 0xe0 then 0xa0 else 0x80,
        if n = 0xed then 0x9f else 0xbf⟩) rest := by
  rw [read_ofNat_cons none (by omega), step, start, if_neg (by omega), if_neg (by omega),
    if_pos ⟨hlow, hhigh⟩]
  rfl

theorem read_first_of_four (hlow : 0xf0 ≤ n) (hhigh : n ≤ 0xf4) :
    read none (UInt8.ofNat n :: rest) =
      read (some ⟨2, n % 8, if n = 0xf0 then 0x90 else 0x80,
        if n = 0xf4 then 0x8f else 0xbf⟩) rest := by
  rw [read_ofNat_cons none (by omega), step, start, if_neg (by omega), if_neg (by omega),
    if_neg (by omega), if_pos ⟨hlow, hhigh⟩]
  rfl

theorem read_next (hlow : low ≤ n) (hhigh : n ≤ high) (hbyte : n < 256) :
    read (some ⟨more + 1, bits, low, high⟩) (UInt8.ofNat n :: rest) =
      read (some ⟨more, bits * 64 + n % 64, 0x80, 0xbf⟩) rest := by
  rw [read_ofNat_cons _ hbyte, step, if_pos ⟨hlow, hhigh⟩]
  rfl

theorem read_last (hlow : low ≤ n) (hhigh : n ≤ high) (hbyte : n < 256) :
    read (some ⟨0, bits, low, high⟩) (UInt8.ofNat n :: rest) =
      Char.ofNat (bits * 64 + n % 64) :: read none rest := by
  rw [read_ofNat_cons _ hbyte, step, if_pos ⟨hlow, hhigh⟩]
  rfl

theorem read_utf8EncodeChar_append (c : Char) (rest : List UInt8) :
    read none (String.utf8EncodeChar c ++ rest) = c :: read none rest := by
  have hvalid : c.val.toNat < 0xd800 ∨ 0xdfff < c.val.toNat ∧ c.val.toNat < 0x110000 := c.valid
  have hchar : Char.ofNat c.val.toNat = c := Char.ofNat_toNat c
  rw [String.utf8EncodeChar]
  generalize c.val.toNat = v at hvalid hchar ⊢
  -- One case for each number of bytes. The second byte keeps to the bounds that the first one sets
  -- because the character has no shorter form and is no surrogate.
  split
  · next h1 => rw [List.cons_append, read_single h1, hchar, List.nil_append]
  split
  · next h1 h2 =>
    have hbits : (v / 64 % 32 + 192) % 32 * 64 + (v % 64 + 128) % 64 = v := by omega
    simp only [List.cons_append, List.nil_append]
    rw [read_first_of_two (by omega) (by omega), read_last (by omega) (by omega) (by omega), hbits,
      hchar]
  split
  · next h1 h2 h3 =>
    have hbits : ((v / 4096 % 16 + 224) % 16 * 64 + (v / 64 % 64 + 128) % 64) * 64 +
        (v % 64 + 128) % 64 = v := by omega
    simp only [List.cons_append, List.nil_append]
    rw [read_first_of_three (by omega) (by omega), read_next (by split <;> omega)
      (by split <;> omega) (by omega), read_last (by omega) (by omega) (by omega), hbits, hchar]
  · next h1 h2 h3 =>
    have hbits : (((v / 262144 % 8 + 240) % 8 * 64 + (v / 4096 % 64 + 128) % 64) * 64 +
        (v / 64 % 64 + 128) % 64) * 64 + (v % 64 + 128) % 64 = v := by omega
    simp only [List.cons_append, List.nil_append]
    rw [read_first_of_four (by omega) (by omega), read_next (by split <;> omega)
      (by split <;> omega) (by omega), read_next (by omega) (by omega) (by omega),
      read_last (by omega) (by omega) (by omega), hbits, hchar]

theorem read_flatMap_utf8EncodeChar (cs : List Char) :
    read none (cs.flatMap String.utf8EncodeChar) = cs := by
  induction cs with
  | nil => rfl
  | cons c cs ih => rw [List.flatMap_cons, read_utf8EncodeChar_append, ih]

/-- A character that breaks off, and a byte that starts none. -/
example : read none [0xe2, 0x82, 0x41, 0xc0] = [replacement, 'A', replacement] := by decide

end ApiScribe.Text.Utf8
