import ApiScribe.Text.Alphanumeric
import ApiScribe.Text.LetterCase

/-!
# Words and identifier styles

A name is cut into words at every character that is neither letter nor number, and inside such a
piece where a small letter meets a capital and before the last capital of a run that small letters
follow (`HTTPResponse` is `HTTP` and `Response`). Digits and letters without case continue whatever
stands before them. The styles then join the words again.

The style functions that touch only the first character leave the rest of the name as it is.
-/

namespace ApiScribe.Text

/-! ## Words -/

/-- What the letters since the last cut have been. -/
inductive LetterMode where
  /-- No cased letter since the cut. -/
  | boundary
  /-- The last cased letter was small. -/
  | lower
  /-- The last cased letter was a capital. -/
  | upper
deriving DecidableEq, Repr

/-- The mode after a further character; letters without case keep it. -/
def LetterMode.next (mode : LetterMode) (c : Char) : LetterMode :=
  if isLowercase c then .lower else if isUppercase c then .upper else mode

/-- The words of a piece of letters and numbers, given the mode and the reversed start of the
current word. -/
def pieceWords (mode : LetterMode) (start : List Char) : List Char → List (List Char)
  | [] => []
  | [c] => [(c :: start).reverse]
  | c :: following :: rest =>
    if mode.next c = .lower ∧ isUppercase following then
      (c :: start).reverse :: pieceWords .boundary [] (following :: rest)
    else if mode = .upper ∧ isUppercase c ∧ isLowercase following then
      start.reverse :: pieceWords .boundary [c] (following :: rest)
    else
      pieceWords (mode.next c) (c :: start) (following :: rest)

def words (s : String) : List (List Char) :=
  (s.toList.splitOnP (!isAlphanumeric ·)).flatMap (pieceWords .boundary [])

/-! ## Case of a word -/

/-- The word in small letters. A final sigma takes its final form. -/
def lowerWord : List Char → List Char
  | [] => []
  | [c] => if c = 'Σ' then ['ς'] else lowerChar c
  | c :: rest => lowerChar c ++ lowerWord rest

/-- The word in capital letters. -/
def upperWord (w : List Char) : List Char :=
  w.flatMap upperChar

/-- The word with a capital at its start and small letters after it. -/
def capitalizeWord : List Char → List Char
  | [] => []
  | c :: rest => upperChar c ++ lowerWord rest

/-! ## Styles -/

/-- The name with a capital first character. -/
def upperFirst (s : String) : String :=
  match s.toList with
  | [] => ""
  | c :: rest => String.ofList (upperChar c ++ rest)

/-- The name with a small first character. -/
def lowerFirst (s : String) : String :=
  match s.toList with
  | [] => ""
  | c :: rest => String.ofList (lowerChar c ++ rest)

/-- `user_id` as `userId`. -/
def camelCase (s : String) : String :=
  match words s with
  | [] => ""
  | w :: rest => String.ofList (lowerWord w ++ rest.flatMap capitalizeWord)

/-- `user_id` as `UserId`. -/
def pascalCase (s : String) : String :=
  String.ofList ((words s).flatMap capitalizeWord)

/-- `userId` as `user_id`. What follows the first angle bracket is a type argument and dropped. -/
def snakeCase (s : String) : String :=
  let base := String.ofList (s.toList.takeWhile (· != '<'))
  "_".intercalate ((words base).map fun w ↦ String.ofList (lowerWord w))

/-- `in-progress` as `IN_PROGRESS`. -/
def shoutyCase (s : String) : String :=
  "_".intercalate ((words s).map fun w ↦ String.ofList (upperWord w))

@[simp] theorem upperFirst_empty : upperFirst "" = "" := rfl

@[simp] theorem lowerFirst_empty : lowerFirst "" = "" := rfl

end ApiScribe.Text
