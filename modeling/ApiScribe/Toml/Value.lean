import ApiScribe.Number.Binary64
import ApiScribe.Order.KeyedList

/-!
# Values of settings files

The values of the TOML format. Dates and times are kept as they are written, because no setting is
one.
-/

namespace ApiScribe

/-- A value of a settings file. -/
inductive Toml where
  /-- A text. -/
  | string (value : String)
  /-- A truth value. -/
  | bool (value : Bool)
  /-- An integer of 64 bits. -/
  | int (value : Int)
  /-- A number with a fraction or an exponent, infinity, or no number. -/
  | float (value : Binary64)
  /-- A date, a time or both. -/
  | moment (text : String)
  /-- A list of values. -/
  | array (items : List Toml)
  /-- Named values. -/
  | table (entries : List (String × Toml))
deriving Repr, Inhabited

end ApiScribe
