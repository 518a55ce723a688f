import ApiScribe.Json.Basic
import ApiScribe.Text.Digits

/-!
# Reading JSON text

A strict reader: no trailing commas, no comments, no raw control characters in strings, no leading
zeros, nothing after the value but blanks.

A string is read in two steps. The first takes its characters and `\u` escapes as they stand, which
settles the syntax; the second pairs surrogate escapes and fails when one is left over. Only the
second step makes the difference between a text and `Json.noValue`.

Each recursive step takes at least one character off the text, so the number of characters bounds
the recursion.
-/

namespace ApiScribe.Json

/-- A blank between tokens. -/
def isSpace (c : Char) : Bool :=
  c == ' ' || c == '\n' || c == '\t' || c == '\r'

/-- The text after its leading blanks. -/
def skipSpace (cs : List Char) : List Char :=
  cs.dropWhile isSpace

/-! ## Strings -/

/-- The number that four hexadecimal digits write. -/
def hexQuad? (a b c d : Char) : Option Nat := do
  let a ← Text.hexValue? a
  let b ← Text.hexValue? b
  let c ← Text.hexValue? c
  let d ← Text.hexValue? d
  return ((a * 16 + b) * 16 + c) * 16 + d

/-- A part of a string as written: a character, or a `\u` escape, which may be half a character. -/
inductive Unit16 where
  /-- A character, raw or from a short escape. -/
  | char (c : Char)
  /-- A sixteen-bit unit from a `\u` escape. -/
  | code (n : Nat)
deriving DecidableEq, Repr

def shortEscape? (c : Char) : Option Char :=
  if c = '"' then some '"'
  else if c = '\\' then some '\\'
  else if c = '/' then some '/'
  else if c = 'b' then some '\x08'
  else if c = 'f' then some '\x0c'
  else if c = 'n' then some '\n'
  else if c = 'r' then some '\r'
  else if c = 't' then some '\t'
  else none

/-- The units of a string up to its closing quotation mark, and the text after it. -/
def readUnits : List Char → Option (List Unit16 × List Char)
  | [] => none
  | '"' :: rest => some ([], rest)
  | '\\' :: 'u' :: a :: b :: c :: d :: rest => do
    let n ← hexQuad? a b c d
    let (units, rest) ← readUnits rest
    return (.code n :: units, rest)
  | '\\' :: c :: rest => do
    let e ← shortEscape? c
    let (units, rest) ← readUnits rest
    return (.char e :: units, rest)
  | c :: rest =>
    if c = '\\' ∨ c.toNat < 0x20 then none
    else do
      let (units, rest) ← readUnits rest
      return (.char c :: units, rest)

/-- The characters that units stand for: surrogates in pairs, high before low. -/
def joinUnits : List Unit16 → Option (List Char)
  | [] => some []
  | .char c :: rest => (joinUnits rest).map (c :: ·)
  | .code n :: rest =>
    if 0xd800 ≤ n ∧ n < 0xdc00 then
      match rest with
      | .code m :: rest =>
        if 0xdc00 ≤ m ∧ m < 0xe000 then
          (joinUnits rest).map (Char.ofNat (0x10000 + (n - 0xd800) * 0x400 + (m - 0xdc00)) :: ·)
        else none
      | _ => none
    else if 0xdc00 ≤ n ∧ n < 0xe000 then none
    else (joinUnits rest).map (Char.ofNat n :: ·)

/-- A string after its opening quotation mark. The text is absent when a surrogate is unpaired. -/
def readString (cs : List Char) : Option (Option String × List Char) := do
  let (units, rest) ← readUnits cs
  return ((joinUnits units).map String.ofList, rest)

/-! ## Numbers -/

/-- The number that decimal digits write. -/
def decimalValue (digits : List Char) : Nat :=
  digits.foldl (fun n c ↦ n * 10 + (c.toNat - 0x30)) 0

/-- The value of an integer literal. Zero with a sign and integers beyond 64 bits are doubles. -/
def integerValue (negative : Bool) (n : Nat) : Json :=
  if negative then
    if 0 < n ∧ n ≤ 9223372036854775808 then .int (-n) else double (Binary64.ofDecimal? true n 0)
  else if n < 18446744073709551616 then .int n else double (Binary64.ofDecimal? false n 0)
where
  /-- A double, if it is finite. -/
  double : Option Binary64 → Json
    | some x => .float x
    | none => .noValue

/-- A digit run that has to be there. -/
def readDigits (cs : List Char) : Option (List Char × List Char) :=
  let digits := cs.takeWhile Char.isDigit
  if digits.isEmpty then none else some (digits, cs.dropWhile Char.isDigit)

/-- The fraction of a number, empty when there is no point. -/
def readFraction : List Char → Option (List Char × List Char)
  | '.' :: rest => readDigits rest
  | cs => some ([], cs)

/-- The digits of an exponent and whether it is negative. -/
def readExponentDigits : List Char → Option ((Bool × List Char) × List Char)
  | '+' :: rest => (readDigits rest).map fun (ds, rest) ↦ ((false, ds), rest)
  | '-' :: rest => (readDigits rest).map fun (ds, rest) ↦ ((true, ds), rest)
  | cs => (readDigits cs).map fun (ds, rest) ↦ ((false, ds), rest)

/-- The exponent of a number; `none` inside when there is no mark for one. -/
def readExponent : List Char → Option (Option Int × List Char)
  | c :: rest =>
    if c = 'e' ∨ c = 'E' then
      (readExponentDigits rest).map fun ((negative, ds), rest) ↦
        let n : Int := decimalValue ds
        (some (if negative then -n else n), rest)
    else some (none, c :: rest)
  | [] => some (none, [])

/-- A number without its sign. -/
def readUnsigned (negative : Bool) (cs : List Char) : Option (Json × List Char) := do
  let (whole, rest) ← readDigits cs
  if whole.head? = some '0' ∧ whole.length ≠ 1 then none
  let (fraction, rest) ← readFraction rest
  let (exponent, rest) ← readExponent rest
  if fraction.isEmpty ∧ exponent.isNone then
    return (integerValue negative (decimalValue whole), rest)
  let digits := decimalValue (whole ++ fraction)
  let place := exponent.getD 0 - fraction.length
  return (integerValue.double (Binary64.ofDecimal? negative digits place), rest)

def readNumber : List Char → Option (Json × List Char)
  | '-' :: rest => readUnsigned true rest
  | cs => readUnsigned false cs

/-! ## Values -/

/-- The value after a member's members: an object, unless one of its keys is no text. -/
def objectOf : Option (List (String × Json)) → Json
  | some members => .object members
  | none => .noValue

mutual

def readValue : Nat → List Char → Option (Json × List Char)
  | 0, _ => none
  | fuel + 1, cs =>
    match skipSpace cs with
    | 'n' :: 'u' :: 'l' :: 'l' :: rest => some (.null, rest)
    | 't' :: 'r' :: 'u' :: 'e' :: rest => some (.bool true, rest)
    | 'f' :: 'a' :: 'l' :: 's' :: 'e' :: rest => some (.bool false, rest)
    | '"' :: rest =>
      (readString rest).map fun (text, rest) ↦ (text.elim .noValue .string, rest)
    | '[' :: rest =>
      match skipSpace rest with
      | ']' :: rest => some (.array [], rest)
      | rest => (readItems fuel rest).map fun (items, rest) ↦ (.array items, rest)
    | '\x7b' :: rest =>
      match skipSpace rest with
      | '\x7d' :: rest => some (.object [], rest)
      | rest => (readMembers fuel rest).map fun (members, rest) ↦ (objectOf members, rest)
    | rest => readNumber rest

/-- The items of an array that is not empty, through its closing bracket. -/
def readItems : Nat → List Char → Option (List Json × List Char)
  | 0, _ => none
  | fuel + 1, cs => do
    let (v, rest) ← readValue fuel cs
    match skipSpace rest with
    | ']' :: rest => return ([v], rest)
    | ',' :: rest =>
      let (vs, rest) ← readItems fuel rest
      return (v :: vs, rest)
    | _ => none

/-- The members of an object that is not empty, through its closing brace. They are absent when a
key is no text. -/
def readMembers : Nat → List Char → Option (Option (List (String × Json)) × List Char)
  | 0, _ => none
  | fuel + 1, cs =>
    match skipSpace cs with
    | '"' :: rest => do
      let (key, rest) ← readString rest
      match skipSpace rest with
      | ':' :: rest =>
        let (v, rest) ← readValue fuel rest
        match skipSpace rest with
        | '\x7d' :: rest => return (key.map fun k ↦ [(k, v)], rest)
        | ',' :: rest =>
          let (members, rest) ← readMembers fuel rest
          return (key.bind fun k ↦ members.map ((k, v) :: ·), rest)
        | _ => none
      | _ => none
    | _ => none

end

/-- The value that a JSON text stands for. -/
def parse? (text : String) : Option Json := do
  let cs := text.toList
  let (v, rest) ← readValue (cs.length + 1) cs
  if (skipSpace rest).isEmpty then some v else none

end ApiScribe.Json
