import ApiScribe.Json.Basic

/-!
# JSON text

The compact text of a value, without any blank, and the pretty text, with one item to a line and two
spaces to a level. Both write members in the order they have. A string escapes the quotation mark,
the backslash and the characters below U+0020, and nothing else.

`Json.noValue` is written as a number beyond the range of doubles, which reads back as itself.
-/

namespace ApiScribe.Json

/-! ## Scalars -/

/-- One character inside a string. -/
def escapeChar (c : Char) : List Char :=
  if c = '"' then ['\\', '"']
  else if c = '\\' then ['\\', '\\']
  else if c = '\n' then ['\\', 'n']
  else if c = '\r' then ['\\', 'r']
  else if c = '\t' then ['\\', 't']
  else if c = '\x08' then ['\\', 'b']
  else if c = '\x0c' then ['\\', 'f']
  else if c.toNat < 0x20 then
    ['\\', 'u', '0', '0', Nat.digitChar (c.toNat / 16), Nat.digitChar (c.toNat % 16)]
  else [c]

def stringChars (s : String) : List Char :=
  '"' :: (s.toList.flatMap escapeChar ++ ['"'])

/-- The decimal digits of an integer, after its sign. -/
def intChars (n : Int) : List Char :=
  if n < 0 then '-' :: Nat.toDigits 10 n.natAbs else Nat.toDigits 10 n.natAbs

/-- The text of a value that is neither an array nor an object. -/
def scalarChars : Json → List Char
  | .null => ['n', 'u', 'l', 'l']
  | .bool true => ['t', 'r', 'u', 'e']
  | .bool false => ['f', 'a', 'l', 's', 'e']
  | .int n => intChars n
  | .float x => (x.render numbers).toList
  | .string s => stringChars s
  | .array _ => []
  | .object _ => []
  | .noValue => ['1', 'e', '9', '9', '9']

/-! ## Compact text -/

mutual

/-- The characters of the compact text. -/
def compactChars : Json → List Char
  | .array [] => ['[', ']']
  | .array (v :: rest) => '[' :: (compactChars v ++ compactItems rest)
  | .object [] => ['\x7b', '\x7d']
  | .object ((k, v) :: rest) =>
    '\x7b' :: (stringChars k ++ ':' :: (compactChars v ++ compactMembers rest))
  | .null => scalarChars .null
  | .bool b => scalarChars (.bool b)
  | .int n => scalarChars (.int n)
  | .float x => scalarChars (.float x)
  | .string s => scalarChars (.string s)
  | .noValue => scalarChars .noValue

/-- The items after the first, each after a comma, and the closing bracket. -/
def compactItems : List Json → List Char
  | [] => [']']
  | v :: rest => ',' :: (compactChars v ++ compactItems rest)

/-- The members after the first, each after a comma, and the closing brace. -/
def compactMembers : List (String × Json) → List Char
  | [] => ['\x7d']
  | (k, v) :: rest => ',' :: (stringChars k ++ ':' :: (compactChars v ++ compactMembers rest))

end

/-- The compact text of a value. -/
def compact (v : Json) : String :=
  String.ofList v.compactChars

/-! ## Pretty text -/

/-- A line break and the indentation of a level. -/
def newline (level : Nat) : List Char :=
  '\n' :: List.replicate (2 * level) ' '

mutual

/-- The characters of the pretty text at a level. -/
def prettyChars (level : Nat) : Json → List Char
  | .array [] => ['[', ']']
  | .array (v :: rest) =>
    '[' :: (newline (level + 1) ++ prettyChars (level + 1) v ++ prettyItems level rest)
  | .object [] => ['\x7b', '\x7d']
  | .object ((k, v) :: rest) =>
    '\x7b' :: (newline (level + 1) ++ stringChars k ++ ':' :: ' ' ::
      (prettyChars (level + 1) v ++ prettyMembers level rest))
  | .null => scalarChars .null
  | .bool b => scalarChars (.bool b)
  | .int n => scalarChars (.int n)
  | .float x => scalarChars (.float x)
  | .string s => scalarChars (.string s)
  | .noValue => scalarChars .noValue

/-- The items after the first, each on a line of its own, and the closing bracket. -/
def prettyItems (level : Nat) : List Json → List Char
  | [] => newline level ++ [']']
  | v :: rest => ',' :: (newline (level + 1) ++ prettyChars (level + 1) v ++ prettyItems level rest)

/-- The members after the first, each on a line of its own, and the closing brace. -/
def prettyMembers (level : Nat) : List (String × Json) → List Char
  | [] => newline level ++ ['\x7d']
  | (k, v) :: rest =>
    ',' :: (newline (level + 1) ++ stringChars k ++ ':' :: ' ' ::
      (prettyChars (level + 1) v ++ prettyMembers level rest))

end

/-- The pretty text of a value. -/
def pretty (v : Json) : String :=
  String.ofList (v.prettyChars 0)

end ApiScribe.Json
