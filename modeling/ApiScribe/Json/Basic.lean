import ApiScribe.Number.Shortest
import ApiScribe.Order.KeyedList

/-!
# JSON values

The value that a JSON text stands for. Integers that fit 64 bits, signed or unsigned, are kept
exactly; every other number is a double. The members of an object keep their order and repetitions,
because a record reader has to see a repeated field; `Json.canonical` gives the dictionary they
mean.

Some texts are valid syntax and yet stand for no value: a number beyond the range of doubles, or a
string with half of a surrogate pair. `Json.noValue` stands for them, so that a reader may skip over
such a member without accepting it anywhere else.
-/

namespace ApiScribe

inductive Json where
  /-- The literal `null`. -/
  | null
  /-- A truth value. -/
  | bool (value : Bool)
  /-- An integer. -/
  | int (value : Int)
  /-- A number with a fraction or an exponent, or an integer beyond 64 bits. -/
  | float (value : Binary64)
  /-- A text. -/
  | string (value : String)
  /-- A list of values. -/
  | array (items : List Json)
  /-- Named values, in the order written. -/
  | object (members : List (String × Json))
  /-- Valid syntax that stands for no value. -/
  | noValue
deriving Repr, Inhabited

namespace Json

mutual

/-- The value with every object in ascending order of its keys, a repeated key keeping its last
value. -/
def canonical : Json → Json
  | .array items => .array (canonicalItems items)
  | .object members => .object (KeyedList.ofPairs (canonicalMembers members))
  | .null => .null
  | .bool b => .bool b
  | .int n => .int n
  | .float x => .float x
  | .string s => .string s
  | .noValue => .noValue

def canonicalItems : List Json → List Json
  | [] => []
  | v :: rest => v.canonical :: canonicalItems rest

/-- Each member with the canonical form of its value. -/
def canonicalMembers : List (String × Json) → List (String × Json)
  | [] => []
  | (k, v) :: rest => (k, v.canonical) :: canonicalMembers rest

end

def member? (key : String) : Json → Option Json
  | .object members => KeyedList.get? key members
  | _ => none

/-- How doubles are written in JSON: in places from `1e-5` up to below `1e16`. -/
def numbers : Binary64.Notation where
  greatest := 15
  least := -5

end Json

end ApiScribe
