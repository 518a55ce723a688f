import ApiScribe.Uri.Percent

/-!
# Paths of segments

A path is a list of segments, each written after a slash. Segments that are dots are resolved as the
path is read: one dot goes nowhere and two dots go up, but never past a segment that is on a drive.
A path that ends in dots ends in a slash.
-/

namespace ApiScribe.Uri

/-- A segment in small letters, with `%2e` as the dot that it writes. -/
def dotForm : List Char → List Char
  | '%' :: '2' :: e :: rest =>
    if e = 'e' ∨ e = 'E' then '.' :: dotForm rest else '%' :: '2' :: e :: rest
  | c :: rest => c :: dotForm rest
  | [] => []

def isDot (segment : List Char) : Bool :=
  dotForm segment == ['.']

def isDoubleDot (segment : List Char) : Bool :=
  dotForm segment == ['.', '.']

/-- Whether a segment is a drive letter: a letter and a colon or a bar. -/
def isDriveLetter : List Char → Bool
  | [c, mark] => c.isAlpha && (mark == ':' || mark == '|')
  | _ => false

/-- Whether a segment is on a drive: a drive letter, alone or in front of a backslash. -/
def isOnDrive (segment : List Char) : Bool :=
  isDriveLetter (segment.take 2) && (segment.drop 2).head?.all (· == '\\')

/-- The path without its last segment, unless that is on a drive. -/
def goUp (path : List (List Char)) : List (List Char) :=
  match path.getLast? with
  | some last => if isOnDrive last then path else path.dropLast
  | none => path

/-- The path with one more segment: one dot adds nothing and two dots go up, but at the end of a
path both leave an empty segment. -/
def extend (path : List (List Char)) (segment : List Char) (isLast : Bool) : List (List Char) :=
  if isDoubleDot segment then if isLast then goUp path ++ [[]] else goUp path
  else if isDot segment then if isLast then path ++ [[]] else path
  else path ++ [encode pathSet segment]

/-- The path after reading more segments. -/
def resolve (path : List (List Char)) : List (List Char) → List (List Char)
  | [] => path
  | segment :: rest => resolve (extend path segment rest.isEmpty) rest

/-- The segments of a text after the slash that opens the path. Under a special scheme a backslash
is a slash. -/
def segments (special : Bool) (cs : List Char) : List (List Char) :=
  resolve [] (cs.splitOnP fun c ↦ c == '/' || (special && c == '\\'))

end ApiScribe.Uri
