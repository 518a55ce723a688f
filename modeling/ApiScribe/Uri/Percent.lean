import ApiScribe.Text.Digits

/-!
# Percent encoding

A character that may not stand in a part of a URI is written as the bytes of its UTF-8 form, each as
a percent sign and two capital hexadecimal digits. Every character outside ASCII is; which ASCII
characters are depends on the part.
-/

namespace ApiScribe.Uri

/-- A hexadecimal digit, as a capital. -/
def hexDigit (n : Nat) : Char :=
  (Nat.digitChar n).toUpper

/-- A byte as a percent sign and two digits. -/
def percentByte (b : UInt8) : List Char :=
  ['%', hexDigit (b.toNat / 16), hexDigit (b.toNat % 16)]

/-- A character, encoded if it is outside ASCII or in the set. -/
def encodeChar (set : Char → Bool) (c : Char) : List Char :=
  if 0x80 ≤ c.toNat || set c then (String.utf8EncodeChar c).flatMap percentByte else [c]

/-- A text, each character encoded if it has to be. -/
def encode (set : Char → Bool) (cs : List Char) : List Char :=
  cs.flatMap (encodeChar set)

/-! ## Sets -/

def controlSet (c : Char) : Bool :=
  c.toNat < 0x20 || c.toNat == 0x7f

/-- What is encoded in a fragment. -/
def fragmentSet (c : Char) : Bool :=
  controlSet c || [' ', '"', '<', '>', '`'].contains c

/-- What is encoded in a path. -/
def pathSet (c : Char) : Bool :=
  fragmentSet c || ['#', '?', '\x7b', '\x7d'].contains c

/-- What is encoded in the name and the password of a user. -/
def userinfoSet (c : Char) : Bool :=
  pathSet c || ['/', ':', ';', '=', '@', '[', '\\', ']', '^', '|'].contains c

/-- What is encoded in a query; the apostrophe only under a special scheme. -/
def querySet (special : Bool) (c : Char) : Bool :=
  controlSet c || [' ', '"', '#', '<', '>'].contains c || (special && c == '\'')

/-! ## Decoding -/

/-- The bytes of a text, each percent sign with two digits taken as the byte that it writes. -/
def decode : List Char → List UInt8
  | [] => []
  | '%' :: a :: b :: rest =>
    match Text.hexValue? a, Text.hexValue? b with
    | some high, some low => UInt8.ofNat (high * 16 + low) :: decode rest
    | _, _ => 0x25 :: decode (a :: b :: rest)
  | c :: rest => String.utf8EncodeChar c ++ decode rest

end ApiScribe.Uri
