/-!
# Cutting texts

Cutting a list at the first element that satisfies a test, and a text at every occurrence of a
character. A text with `n` separators has `n + 1` pieces, so the pieces may be empty.
-/

namespace ApiScribe.Text

variable {α : Type}

/-- What stands before the first element that satisfies `p`, and what follows that element if there
is one. -/
def cutAt (p : α → Bool) (l : List α) : List α × Option (List α) :=
  match l.dropWhile (!p ·) with
  | [] => (l, none)
  | _ :: after => (l.takeWhile (!p ·), some after)

/-- The pieces of a text between the occurrences of a character. -/
def splitAt (sep : Char) (s : String) : List String :=
  (s.toList.splitOn sep).map String.ofList

end ApiScribe.Text
