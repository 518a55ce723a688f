/-!
# Runs of code points

Character classes and case mappings are tables over the code points. Their rows are *runs*: an
interval of code points, or every second point of one, because scripts that alternate capital and
small letters put the members of a class two apart.
-/

namespace ApiScribe.Text

/-- The code points `first`, `first + step`, … up to `last`. -/
structure Run where
  /-- The least code point of the run. -/
  first : Nat
  /-- The greatest code point of the run. -/
  last : Nat
  /-- The distance between neighbours. -/
  step : Nat
deriving Repr, DecidableEq

namespace Run

/-- Whether a code point lies on the run. -/
def contains (r : Run) (n : Nat) : Bool :=
  r.first ≤ n && n ≤ r.last && (n - r.first) % r.step == 0

theorem contains_iff {r : Run} {n : Nat} :
    r.contains n = true ↔ r.first ≤ n ∧ n ≤ r.last ∧ (n - r.first) % r.step = 0 := by
  simp [contains, and_assoc]

end Run

/-- Whether a code point lies in one of the closed intervals of a table. -/
def inIntervals (table : List (Nat × Nat)) (n : Nat) : Bool :=
  table.any fun (first, last) ↦ first ≤ n && n ≤ last

theorem inIntervals_iff {table : List (Nat × Nat)} {n : Nat} :
    inIntervals table n = true ↔ ∃ p ∈ table, p.1 ≤ n ∧ n ≤ p.2 := by
  simp [inIntervals]

/-- The value of the first closed interval of a table in which a code point lies. -/
def valueAt? {β : Type} (table : List (Nat × Nat × β)) (n : Nat) : Option β :=
  (table.find? fun (first, last, _) ↦ first ≤ n && n ≤ last).map (·.2.2)

end ApiScribe.Text
