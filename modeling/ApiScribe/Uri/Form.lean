import ApiScribe.Uri.Percent

/-!
# Form encoding

The encoding of names and values in a query: letters, digits and `*-._` stand for themselves, a
blank is a plus sign, and everything else is percent-encoded.
-/

namespace ApiScribe.Uri

/-- Whether a character stands for itself. -/
def isFormSafe (c : Char) : Bool :=
  c.isAlphanum || ['*', '-', '.', '_'].contains c

/-- One character in form encoding. -/
def formChar (c : Char) : List Char :=
  if c = ' ' then ['+'] else encodeChar (!isFormSafe ·) c

def formEncode (s : String) : String :=
  String.ofList (s.toList.flatMap formChar)

/-- A name and a value. -/
def formPair (p : String × String) : String :=
  formEncode p.1 ++ "=" ++ formEncode p.2

/-- A query with pairs added at its end, with an ampersand in front of each but the first of a query
that was empty. -/
def appendPairs (query : String) : List (String × String) → String
  | [] => query
  | p :: rest =>
    appendPairs ((if query.isEmpty then "" else query ++ "&") ++ formPair p) rest

end ApiScribe.Uri
