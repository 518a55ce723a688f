import ApiScribe.Text.Composition
import ApiScribe.Text.Direction
import ApiScribe.Text.Joining
import ApiScribe.Uri.Punycode
import ApiScribe.Uri.Repertoire

/-!
# Domains

A domain is a list of labels with points between them. A label that starts with `xn--` stands for
one with characters outside ASCII, which has to be in its only form: it holds no character that it
may not hold, is composed, starts with no mark and has controls of joining only where they are of
use. If any label runs to the left then every label of the domain runs one way.
-/

namespace ApiScribe.Uri

/-- How many characters may follow the `xn--` of a label. -/
def encodedLimit : Nat := 2000

/-- How many characters a label with characters outside ASCII may have. -/
def labelLimit : Nat := 1000

/-- Whether a label with characters outside ASCII is in its only form. -/
def isLabel (cs : List Char) : Bool :=
  cs.length ≤ labelLimit && cs.all isLabelChar && Text.composed cs == cs &&
    !cs.head?.any Text.isMark && Text.joinsWell [] cs

/-- The label that a label in ASCII stands for, which most often is itself. -/
def label? : List Char → Option (List Char)
  | 'x' :: 'n' :: '-' :: '-' :: rest =>
    if rest.length ≤ encodedLimit then (Punycode.decode? rest).filter isLabel else none
  | cs => some cs

/-- Whether the labels of a domain can be told apart from each other on a line of text. -/
def isReadable (labels : List (List Char)) : Bool :=
  !labels.any (·.any (Text.direction · |>.turns)) || labels.all Text.isOneWay

/-- Whether a text of ASCII characters is a domain. -/
def isDomain (cs : List Char) : Bool :=
  ((cs.splitOn '.').mapM label?).any isReadable

end ApiScribe.Uri
