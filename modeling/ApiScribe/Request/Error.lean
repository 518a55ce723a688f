import ApiScribe.Number.Binary64
import ApiScribe.Uri.Error

/-!
# Why a request cannot be prepared
-/

namespace ApiScribe

/-- Why a request cannot be prepared. -/
inductive RequestError where
  /-- No media type is named. -/
  | emptyContentType
  /-- No writer knows the media type. -/
  | unsupportedContentType (contentType : String)
  /-- A number that JSON cannot write, with the key that it was written under. -/
  | nonFiniteNumber (key : Option String) (value : Binary64)
  /-- The source of the content failed. -/
  | unreadableContent (reason : String)
  /-- The text is no URI. -/
  | invalidUri (uri : String) (cause : Uri.UriError)
deriving DecidableEq, Repr

namespace RequestError

def nonFiniteWord (x : Binary64) : String :=
  if x.isNaN then "NaN" else if x.isNegative then "-inf" else "inf"

def message : RequestError → String
  | .emptyContentType => "content type must not be empty"
  | .unsupportedContentType contentType =>
    "no serialization writer for content type `" ++ contentType ++ "`"
  | .nonFiniteNumber _ value => "cannot serialize non-finite number " ++ nonFiniteWord value
  | .unreadableContent reason => "failed to read content: " ++ reason
  | .invalidUri uri cause => "invalid uri `" ++ uri ++ "`: " ++ cause.message

end RequestError

end ApiScribe
