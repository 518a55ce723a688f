/-!
# Stable sorting

Members are written in an order of their own, with ties kept in the order they were declared. The
sort is by insertion, so that closed lists are sorted by reduction, which those of the library that
are by well-founded recursion are not: an element goes in front of the first one it may precede,
hence in front of every later element with the same key.
-/

namespace ApiScribe

variable {α : Type}

/-- The list in ascending order, ties in the order of the list. -/
def sortBy (le : α → α → Bool) (l : List α) : List α :=
  l.foldr (fun a sorted ↦ sorted.takeWhile (!le a ·) ++ a :: sorted.dropWhile (!le a ·)) []

/-- The list ascending by a text read off each element, ties in the order of the list. -/
def sortOn (key : α → String) : List α → List α :=
  sortBy fun a b ↦ decide (key a ≤ key b)

end ApiScribe
