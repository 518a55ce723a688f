import ApiScribe.Json.Basic

/-!
# Records in JSON

A record is written as an object with named fields or as an array with its fields in order. In an
object, fields it does not know are passed over and a field given twice is refused; in an array,
fields at the end may be missing where they have a default, and no item may be left over.
-/

namespace ApiScribe.Json

variable {α : Type}

/-- The fields of a record as found in a value. -/
structure Record where
  /-- The values given, by field name. -/
  fields : List (String × Json)
  /-- Whether the record was written as an array. -/
  positional : Bool

/-- Whether no key occurs twice. -/
def distinctKeys : List (String × Json) → Bool
  | [] => true
  | (k, _) :: rest => !rest.any (·.1 == k) && distinctKeys rest

/-- The record with the given fields that a value holds. -/
def record? (names : List String) : Json → Option Record
  | .object members =>
    let known := members.filter fun m ↦ names.contains m.1
    if distinctKeys known then some ⟨known, false⟩ else none
  | .array items =>
    if items.length ≤ names.length then some ⟨names.zip items, true⟩ else none
  | _ => none

namespace Record

/-- A field that must be given. -/
def required (r : Record) (name : String) (read : Json → Option α) : Option α :=
  (KeyedList.get? name r.fields).bind read

/-- A field that has a default when it is not given. -/
def withDefault (r : Record) (name : String) (default : α) (read : Json → Option α) : Option α :=
  match KeyedList.get? name r.fields with
  | some v => read v
  | none => some default

/-- A field that may be absent or `null`. -/
def optional (r : Record) (name : String) (read : Json → Option α) : Option (Option α) :=
  match KeyedList.get? name r.fields with
  | some .null => some none
  | some v => (read v).map some
  | none => some none

/-- A field that may be `null`, and absent only from a record with named fields. -/
def nullable (r : Record) (name : String) (read : Json → Option α) : Option (Option α) :=
  if r.positional ∧ (KeyedList.get? name r.fields).isNone then none else r.optional name read

end Record

/-! ## Scalars and lists -/

def asString? : Json → Option String
  | .string s => some s
  | _ => none

/-- A truth value. -/
def asBool? : Json → Option Bool
  | .bool b => some b
  | _ => none

/-- A natural number below `2 ^ 64`, written as an integer. -/
def asIndex? : Json → Option Nat
  | .int n => if 0 ≤ n ∧ n < 18446744073709551616 then some n.toNat else none
  | _ => none

/-- The values of a list, each read by `read`. -/
def readAll (read : Json → Option α) : List Json → Option (List α)
  | [] => some []
  | v :: rest => do
    let a ← read v
    let as ← readAll read rest
    return a :: as

def asList? (read : Json → Option α) : Json → Option (List α)
  | .array items => readAll read items
  | _ => none

/-- One of several names: the name itself, or an object with the name as its only key and nothing
under it. -/
def asName? : Json → Option String
  | .string s => some s
  | .object [(s, .null)] => some s
  | _ => none

end ApiScribe.Json
