import ApiScribe.Order.KeyedList
import ApiScribe.Text.Ascii

/-!
# Maps over names up to ASCII case

Headers and query parameters are found under any casing of their name and shown in the spelling that
they were last given. The entries stand in ascending order of the name in small letters.
-/

namespace ApiScribe

/-- A map whose keys are equal up to the case of ASCII letters. -/
structure FoldedMap (α : Type) where
  /-- The spelling and the value of each name, by the name in small letters. -/
  entries : KeyedList (String × α)
  /-- The names in small letters ascend, so no two spellings of one name are kept. -/
  ascending : entries.Ascending
  /-- Every spelling is kept under its own name. -/
  folded : ∀ e ∈ entries, e.1 = Text.asciiLower e.2.1
deriving DecidableEq, Repr

namespace FoldedMap

variable {α : Type}

/-- The map without entries. -/
def empty : FoldedMap α where
  entries := []
  ascending := .nil
  folded := nofun

/-- The value of a name, in any casing. -/
def get? (m : FoldedMap α) (key : String) : Option α :=
  (KeyedList.get? (Text.asciiLower key) m.entries).map (·.2)

/-- Whether a name has a value, in any casing. -/
def contains (m : FoldedMap α) (key : String) : Bool :=
  (m.get? key).isSome

/-- The map with a name set to a value; the name takes the spelling given. -/
def insert (m : FoldedMap α) (key : String) (value : α) : FoldedMap α where
  entries := KeyedList.put (Text.asciiLower key) (key, value) m.entries
  ascending := KeyedList.ascending_put m.ascending _ _
  folded := by
    intro e he
    rcases KeyedList.mem_of_mem_put he with rfl | he
    · rfl
    · exact m.folded e he

/-- The map without a name, in any casing. -/
def erase (m : FoldedMap α) (key : String) : FoldedMap α where
  entries := KeyedList.erase (Text.asciiLower key) m.entries
  ascending := m.ascending.sublist (KeyedList.erase_sublist _ _)
  folded e he := m.folded e ((KeyedList.erase_sublist _ _).mem he)

/-- The map with a name set to a value, and the value that it had in any casing. -/
def replace (m : FoldedMap α) (key : String) (value : α) : Option α × FoldedMap α :=
  let replaced := KeyedList.replace (Text.asciiLower key) (key, value) m.entries
  (replaced.1.map (·.2),
    { entries := replaced.2
      ascending := by
        rw [KeyedList.replace_snd]
        exact (m.insert key value).ascending
      folded := by
        rw [KeyedList.replace_snd]
        exact (m.insert key value).folded })

/-- The map without a name, and the value that it had in any casing. -/
def remove (m : FoldedMap α) (key : String) : Option α × FoldedMap α :=
  let removed := KeyedList.remove (Text.asciiLower key) m.entries
  (removed.1.map (·.2),
    { entries := removed.2
      ascending := by
        rw [KeyedList.remove_snd]
        exact (m.erase key).ascending
      folded := by
        rw [KeyedList.remove_snd]
        exact (m.erase key).folded })

/-- The number of names. -/
def size (m : FoldedMap α) : Nat :=
  m.entries.length

def isEmpty (m : FoldedMap α) : Bool :=
  m.entries.isEmpty

/-- The names in their spelling, with their values, in order. -/
def toList (m : FoldedMap α) : List (String × α) :=
  m.entries.map (·.2)

/-- The map that holds the last value given for each name. -/
def ofList (pairs : List (String × α)) : FoldedMap α :=
  pairs.foldl (fun m p ↦ m.insert p.1 p.2) empty

@[simp] theorem get?_empty (key : String) : (empty : FoldedMap α).get? key = none := rfl

@[simp] theorem get?_insert_self (m : FoldedMap α) (key : String) (value : α) :
    (m.insert key value).get? key = some value := by
  simp [get?, insert]

theorem get?_insert_of_ne {key other : String} (h : Text.asciiLower other ≠ Text.asciiLower key)
    (m : FoldedMap α) (value : α) : (m.insert key value).get? other = m.get? other := by
  simp [get?, insert, KeyedList.get?_put_of_ne h]

end FoldedMap

end ApiScribe
