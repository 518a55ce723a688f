import ApiScribe.Toml.Value

/-!
# Tables that are being filled

A file defines its tables in sections and with dotted keys, in any order, and each only once. To see
what may still be added to a table one has to know where it came from:

* a header defines a table, once; before that, headers of tables inside it may have implied it;
* a dotted key defines tables, to which only dotted keys of the same section add;
* a table written as a value is complete;
* a double header adds a table to a list, and what follows goes into the last of them.

`none` stands for a file that defines something twice.
-/

namespace ApiScribe.Toml

/-- Where a table came from. -/
inductive Origin where
  /-- The header of a table inside it. -/
  | implied
  /-- A dotted key. -/
  | dotted
  /-- Its own header. -/
  | header
deriving DecidableEq, Repr

/-- What a key has been given so far. -/
inductive Node where
  /-- A value, which is complete. -/
  | value (v : Toml)
  /-- A table that can grow. -/
  | table (origin : Origin) (entries : List (String × Node))
  /-- A list of tables, of which the last can grow. -/
  | tables (items : List (List (String × Node)))

/-- The entries of a table that can grow. -/
abbrev Entries := KeyedList Node

/-- Gives a value to a dotted key of a table. -/
def putDotted : List String → String → Toml → Entries → Option Entries
  | [], key, v, t =>
    match KeyedList.get? key t with
    | none => some (KeyedList.put key (.value v) t)
    | some _ => none
  | step :: rest, key, v, t =>
    match KeyedList.get? step t with
    | none => (putDotted rest key v []).map fun inner ↦ KeyedList.put step (.table .dotted inner) t
    | some (.table origin inner) =>
      if origin = .header ∨ (rest.isEmpty ∧ origin ≠ .dotted) then none
      else (putDotted rest key v inner).map fun inner ↦ KeyedList.put step (.table origin inner) t
    | some (.tables items) =>
      if rest.isEmpty then none
      else (putDotted rest key v (items.getLast?.getD [])).map fun inner ↦
        KeyedList.put step (.tables (items.dropLast ++ [inner])) t
    | some (.value _) => none

/-- Changes the table at a path, in the last table of each list on the way. Tables that are missing
are implied. -/
def within (change : Entries → Option Entries) : List String → Entries → Option Entries
  | [], t => change t
  | step :: rest, t =>
    match KeyedList.get? step t with
    | none => (within change rest []).map fun inner ↦ KeyedList.put step (.table .implied inner) t
    | some (.table origin inner) =>
      (within change rest inner).map fun inner ↦ KeyedList.put step (.table origin inner) t
    | some (.tables items) =>
      (within change rest (items.getLast?.getD [])).map fun inner ↦
        KeyedList.put step (.tables (items.dropLast ++ [inner])) t
    | some (.value _) => none

def openTable (path : List String) (key : String) : Entries → Option Entries :=
  within (fun t ↦
    match KeyedList.get? key t with
    | none => some (KeyedList.put key (.table .header []) t)
    | some (.table .implied inner) => some (KeyedList.put key (.table .header inner) t)
    | some _ => none) path

/-- A new table in the list of a double header. -/
def openItem (path : List String) (key : String) : Entries → Option Entries :=
  within (fun t ↦
    match KeyedList.get? key t with
    | none => some (KeyedList.put key (.tables [[]]) t)
    | some (.tables items) => some (KeyedList.put key (.tables (items ++ [[]])) t)
    | some _ => none) path

mutual

/-- What a key has been given, as a value. -/
def Node.toValue : Node → Toml
  | .value v => v
  | .table _ entries => .table (entryValues entries)
  | .tables items => .array (itemValues items)

/-- The entries of a table as values. -/
def entryValues : List (String × Node) → List (String × Toml)
  | [] => []
  | (key, node) :: rest => (key, node.toValue) :: entryValues rest

def itemValues : List (List (String × Node)) → List Toml
  | [] => []
  | entries :: rest => .table (entryValues entries) :: itemValues rest

end

end ApiScribe.Toml
